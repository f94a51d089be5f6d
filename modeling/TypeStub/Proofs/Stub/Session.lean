import TypeStub.Proofs.Dialect.Layering
import TypeStub.Stub.Session

/-!
# What a session keeps

A builder is changed by requests that set something and that succeed, and by no others
(`perform_fst`, `perform_of_error`).  Each request of a session is answered by the builder that
the requests in front of it have left (`getElem?_performAll`).  This is the first builder with
the last settings that were accepted (`after_eq`), and its dialect stays usable whatever is
requested (`usable_after`).
-/

namespace TypeStub
namespace Stub

/-- The dialect that a request sets, if the layers leave a usable one. -/
def Request.dialect? : Request → Option Dialect
  | .setDialect layers => (Dialect.ofLayers layers).toOption
  | _ => none

def Request.fallback? : Request → Option String
  | .setFallback fallback => some fallback
  | _ => none

namespace Builder

variable [Template.Members] {builder : Builder} {request : Request}

/-! ## One request -/

theorem perform_fst (builder : Builder) (request : Request) :
    (builder.perform request).1 =
      ⟨request.dialect?.getD builder.dialect, request.fallback?.getD builder.fallback⟩ := by
  cases request with
  | setDialect layers =>
    rw [perform, Request.dialect?]
    cases Dialect.ofLayers layers <;> rfl
  | _ => rfl

/-- A request that fails changes nothing. -/
theorem perform_of_error {failure : SessionFailure}
    (h : (builder.perform request).2.value = .error failure) :
    (builder.perform request).1 = builder := by
  cases request with
  | setFallback fallback => cases h
  | setDialect layers =>
    rw [perform] at h ⊢
    cases hlayers : Dialect.ofLayers layers with
    | ok dialect =>
      rw [hlayers] at h
      cases h
    | error fault => rfl
  | _ => rfl

theorem usable_perform (h : builder.dialect.Usable) (request : Request) :
    (builder.perform request).1.dialect.Usable := by
  rw [perform_fst]
  cases request with
  | setDialect layers =>
    rw [Request.dialect?]
    cases hlayers : Dialect.ofLayers layers with
    | ok dialect => exact Dialect.usable_of_ofLayers hlayers
    | error fault => exact h
  | _ => exact h

/-! ## A whole session -/

/-- The builder that requests leave. -/
def after (builder : Builder) (requests : List Request) : Builder :=
  requests.foldl (fun builder request => (builder.perform request).1) builder

/-- What is requested first is answered regardless of what follows, and leaves its builder to
this. -/
theorem performAll_append (builder : Builder) (requests others : List Request) :
    builder.performAll (requests ++ others) =
      builder.performAll requests ++ (builder.after requests).performAll others := by
  induction requests generalizing builder with
  | nil => rfl
  | cons request requests ih =>
    rw [List.cons_append, performAll, performAll, List.cons_append]
    exact congrArg _ (ih _)

theorem getElem?_performAll (builder : Builder) (requests : List Request) (i : Nat) :
    (builder.performAll requests)[i]? =
      requests[i]?.map fun request => ((builder.after (requests.take i)).perform request).2 := by
  induction requests generalizing builder i with
  | nil => rfl
  | cons request requests ih =>
    rw [performAll]
    cases i with
    | zero => rfl
    | succ i => exact ih _ i

/-- A request that fails could as well have been left out. -/
theorem after_of_error {failure : SessionFailure} {front back : List Request}
    (h : ((builder.after front).perform request).2.value = .error failure) :
    builder.after (front ++ request :: back) = builder.after (front ++ back) := by
  have hsame : ((builder.after front).perform request).1 = builder.after front :=
    perform_of_error h
  rw [after, after, List.foldl_append, List.foldl_append, List.foldl_cons]
  exact congrArg (fun left => left.after back) hsame

theorem after_eq (builder : Builder) (requests : List Request) :
    builder.after requests =
      ⟨(requests.reverse.findSome? Request.dialect?).getD builder.dialect,
        (requests.reverse.findSome? Request.fallback?).getD builder.fallback⟩ := by
  induction requests using List.reverseRecOn with
  | nil => rfl
  | append_singleton requests last ih =>
    have hlast : builder.after (requests ++ [last]) =
        ((builder.after requests).perform last).1 := List.foldl_concat _ _ _ _
    rw [hlast, perform_fst, ih, List.reverse_concat, List.findSome?_cons, List.findSome?_cons]
    cases last.dialect? <;> cases last.fallback? <;> rfl

theorem usable_after (h : builder.dialect.Usable) (requests : List Request) :
    (builder.after requests).dialect.Usable := by
  induction requests generalizing builder with
  | nil => exact h
  | cons request requests ih => exact ih (usable_perform h request)

end Builder

end Stub
end TypeStub
