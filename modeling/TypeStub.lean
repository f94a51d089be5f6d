import TypeStub.Stub.Session
import TypeStub.Proofs.Annotation.Accounting
import TypeStub.Proofs.Annotation.Succession
import TypeStub.Proofs.Dialect.Sequence
import TypeStub.Proofs.Dialect.Layering
import TypeStub.Proofs.Dialect.Wrapping
import TypeStub.Proofs.Stub.Isolation
import TypeStub.Proofs.Annotation.Lossless
import TypeStub.Proofs.Annotation.Named
import TypeStub.Proofs.Annotation.Joining
import TypeStub.Proofs.Dialect.Joining
import TypeStub.Proofs.Dialect.Alteration
import TypeStub.Proofs.Annotation.Image
import TypeStub.Proofs.Dialect.AngleBrackets
import TypeStub.Proofs.Annotation.SurfaceForm
import TypeStub.Proofs.Stub.Rendering
import TypeStub.Proofs.Annotation.Unclosed
import TypeStub.Proofs.Annotation.Appending
import TypeStub.Proofs.Stub.Records
import TypeStub.Proofs.Stub.Session
import TypeStub.Proofs.Annotation.KindOrder
import TypeStub.Proofs.Annotation.FaultPlace
import TypeStub.Proofs.Dialect.FailingTemplate
import TypeStub.Proofs.Dialect.Nilable
import TypeStub.Proofs.Annotation.LongestName
