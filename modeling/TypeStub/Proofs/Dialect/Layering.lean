import Mathlib.Data.List.Induction
import TypeStub.Dialect.Basic
import TypeStub.Proofs.Outcome

/-!
# Layers of a dialect

A layer is checked when it is added, and what is checked are all settings as they are by then,
whichever layer gave them.  What they are by then is said by looking for the last layer that
gives them (`resolved`), without the dialects in between.

So a chain of layers makes a dialect just if none of its beginnings has unusable settings.
The shortest one that has gives the fault, even if a later layer would repair it
(`first_unusable_layer_decides`).
-/

namespace TypeStub
namespace Dialect

/-! ## Settings of a chain -/

/-- The setting as the last layer that gives it has it, or as it is below all layers. -/
def lastGiven {α : Type} (setting : Layer → Option α) (base : α) (layers : List Layer) : α :=
  (layers.reverse.findSome? setting).getD base

/-- The settings of a chain of layers on the standard dialect, each by itself and as a whole. -/
def resolved (layers : List Layer) : Dialect where
  spellings := lastGiven Layer.spellings standard.spellings layers
  nilType := lastGiven Layer.nilType standard.nilType layers
  nilableTemplate := lastGiven Layer.nilableTemplate standard.nilableTemplate layers
  unionTemplate := lastGiven Layer.unionTemplate standard.unionTemplate layers
  collectionTemplate := lastGiven Layer.collectionTemplate standard.collectionTemplate layers

theorem lastGiven_concat {α : Type} (setting : Layer → Option α) (base : α) (layers : List Layer)
    (layer : Layer) :
    lastGiven setting base (layers ++ [layer]) =
      (setting layer).getD (lastGiven setting base layers) := by
  rw [lastGiven, List.reverse_concat, List.findSome?_cons]
  cases setting layer <;> rfl

theorem resolved_nil : resolved [] = standard := rfl

theorem resolved_concat (layers : List Layer) (layer : Layer) :
    resolved (layers ++ [layer]) = layer.over (resolved layers) := by
  simp only [resolved, lastGiven_concat, Layer.over]

/-- The settings are usable at first and behind each layer. -/
def UsableThroughout (layers : List Layer) : Prop :=
  ∀ below, below <+: layers → (resolved below).Usable

theorem usable_standard : standard.Usable :=
  (fault?_eq_none_iff standard).mp (by decide)

theorem usableThroughout_nil : UsableThroughout [] := by
  intro below hbelow
  rw [List.prefix_nil.mp hbelow, resolved_nil]
  exact usable_standard

theorem usableThroughout_concat {layers : List Layer} {layer : Layer} :
    UsableThroughout (layers ++ [layer]) ↔
      UsableThroughout layers ∧ (layer.over (resolved layers)).Usable := by
  simp only [UsableThroughout, List.prefix_concat_iff, or_imp, forall_and, forall_eq,
    resolved_concat]
  exact and_comm

/-! ## Checks -/

/-- The dialect has this fault. -/
def Fault.FoundIn (dialect : Dialect) : Fault → Prop
  | .emptyNilType => dialect.nilType = ""
  | .nilableWithoutPlaceholder => ¬['{', '}'] <:+: dialect.nilableTemplate.toList
  | .unionWithoutPlaceholder => ¬['{', '}'] <:+: dialect.unionTemplate.toList

instance (dialect : Dialect) : DecidablePred (Fault.FoundIn dialect)
  | .emptyNilType => inferInstanceAs (Decidable (dialect.nilType = ""))
  | .nilableWithoutPlaceholder =>
    inferInstanceAs (Decidable ¬['{', '}'] <:+: dialect.nilableTemplate.toList)
  | .unionWithoutPlaceholder =>
    inferInstanceAs (Decidable ¬['{', '}'] <:+: dialect.unionTemplate.toList)

/-- The order in which a dialect is checked for faults. -/
def Fault.order : List Fault :=
  [.emptyNilType, .nilableWithoutPlaceholder, .unionWithoutPlaceholder]

/-- The dialect has this fault, and none that is looked for before it. -/
def Fault.IsFirstIn (dialect : Dialect) (fault : Fault) : Prop :=
  fault.FoundIn dialect ∧
    ∃ front back, Fault.order = front ++ fault :: back ∧ ∀ other ∈ front, ¬other.FoundIn dialect

theorem fault?_eq_find? (dialect : Dialect) :
    dialect.fault? = Fault.order.find? fun fault => fault.FoundIn dialect := by
  simp only [fault?, Fault.order, List.find?_cons, Fault.FoundIn, ←
    Template.hasPlaceholder_eq_true_iff]
  by_cases hnil : dialect.nilType = ""
  · simp [hnil]
  · cases Template.hasPlaceholder dialect.nilableTemplate.toList <;>
      cases Template.hasPlaceholder dialect.unionTemplate.toList <;> simp [hnil]

theorem fault?_eq_some_iff {dialect : Dialect} {fault : Fault} :
    dialect.fault? = some fault ↔ fault.IsFirstIn dialect := by
  rw [fault?_eq_find?, List.find?_eq_some_iff_append]
  simp [Fault.IsFirstIn]

theorem extend_eq_ok_iff {below dialect : Dialect} {layer : Layer} :
    extend below layer = .ok dialect ↔ (layer.over below).Usable ∧ dialect = layer.over below := by
  rw [← fault?_eq_none_iff, extend]
  cases (layer.over below).fault? with
  | none => simp [eq_comm]
  | some fault => simp

theorem extend_eq_error_iff {below : Dialect} {layer : Layer} {fault : Fault} :
    extend below layer = .error fault ↔ fault.IsFirstIn (layer.over below) := by
  rw [← fault?_eq_some_iff, extend]
  cases (layer.over below).fault? <;> simp

/-! ## Chains -/

theorem ofLayers_append (front back : List Layer) :
    ofLayers (front ++ back) = ofLayers front >>= fun below => back.foldlM extend below :=
  List.foldlM_append

theorem ofLayers_concat (layers : List Layer) (layer : Layer) :
    ofLayers (layers ++ [layer]) = ofLayers layers >>= fun below => extend below layer := by
  simp only [ofLayers_append, List.foldlM_cons, List.foldlM_nil, bind_pure]

/-- A chain makes the dialect of its settings, if they are usable throughout. -/
theorem ofLayers_eq_ok_iff {layers : List Layer} {dialect : Dialect} :
    ofLayers layers = .ok dialect ↔ UsableThroughout layers ∧ dialect = resolved layers := by
  induction layers using List.reverseRecOn generalizing dialect with
  | nil =>
    constructor
    · intro h
      exact ⟨usableThroughout_nil, (Except.ok.inj h).symm⟩
    · rintro ⟨-, rfl⟩
      rfl
  | append_singleton layers layer ih =>
    rw [ofLayers_concat, bind_eq_ok_iff, usableThroughout_concat, resolved_concat]
    constructor
    · rintro ⟨below, hbelow, hextend⟩
      obtain ⟨husable, rfl⟩ := ih.mp hbelow
      obtain ⟨hlast, rfl⟩ := extend_eq_ok_iff.mp hextend
      exact ⟨⟨husable, hlast⟩, rfl⟩
    · rintro ⟨⟨husable, hlast⟩, rfl⟩
      exact ⟨_, ih.mpr ⟨husable, rfl⟩, extend_eq_ok_iff.mpr ⟨hlast, rfl⟩⟩

theorem usable_of_ofLayers {layers : List Layer} {dialect : Dialect}
    (h : ofLayers layers = .ok dialect) : dialect.Usable := by
  obtain ⟨husable, rfl⟩ := ofLayers_eq_ok_iff.mp h
  exact husable layers List.prefix_rfl

/-- What stands behind a layer that leaves unusable settings is not looked at. -/
theorem ofLayers_eq_error {front : List Layer} {layer : Layer} {fault : Fault}
    (hfront : UsableThroughout front) (hfault : fault.IsFirstIn (resolved (front ++ [layer])))
    (back : List Layer) : ofLayers (front ++ layer :: back) = .error fault := by
  rw [resolved_concat] at hfault
  have hlast : ofLayers (front ++ [layer]) = .error fault := by
    rw [ofLayers_concat, bind_eq_error_iff]
    exact .inr ⟨_, ofLayers_eq_ok_iff.mpr ⟨hfront, rfl⟩, extend_eq_error_iff.mpr hfault⟩
  rw [List.append_cons, ofLayers_append, hlast]
  rfl

theorem exists_of_ofLayers_eq_error {layers : List Layer} {fault : Fault}
    (h : ofLayers layers = .error fault) :
    ∃ front layer back, layers = front ++ layer :: back ∧ UsableThroughout front ∧
      fault.IsFirstIn (resolved (front ++ [layer])) := by
  induction layers using List.reverseRecOn with
  | nil => cases h
  | append_singleton layers layer ih =>
    rw [ofLayers_concat] at h
    rcases bind_eq_error_iff.mp h with hbelow | ⟨below, hbelow, hextend⟩
    · obtain ⟨front, bad, back, rfl, hfront, hfault⟩ := ih hbelow
      exact ⟨front, bad, back ++ [layer], by simp, hfront, hfault⟩
    · obtain ⟨husable, rfl⟩ := ofLayers_eq_ok_iff.mp hbelow
      refine ⟨layers, layer, [], rfl, husable, ?_⟩
      rw [resolved_concat]
      exact extend_eq_error_iff.mp hextend

/-- The dialects that can be made, each by one more layer on one that was made before. -/
inductive Made : Dialect → Prop
  | standard : Made standard
  | extend {below dialect : Dialect} {layer : Layer} :
    Made below → extend below layer = .ok dialect → Made dialect

theorem Made.exists_layers {dialect : Dialect} (h : Made dialect) :
    ∃ layers, ofLayers layers = .ok dialect := by
  induction h with
  | standard => exact ⟨[], rfl⟩
  | @extend below dialect layer _ hextend ih =>
    obtain ⟨layers, hbelow⟩ := ih
    refine ⟨layers ++ [layer], ?_⟩
    rw [ofLayers_concat, hbelow]
    exact hextend

/-- A chain of layers makes a dialect if its settings are usable throughout, and it is the dialect
of these settings.  Otherwise the first layer that leaves unusable settings decides, with the first
fault that is found in them, whatever stands behind it.  So every dialect that is made is usable. -/
theorem first_unusable_layer_decides (layers : List Layer) :
    (∀ dialect, ofLayers layers = .ok dialect ↔
        UsableThroughout layers ∧ dialect = resolved layers) ∧
      (∀ fault, ofLayers layers = .error fault ↔
        ∃ front layer back, layers = front ++ layer :: back ∧ UsableThroughout front ∧
          fault.IsFirstIn (resolved (front ++ [layer]))) ∧
      ∀ dialect, Made dialect → dialect.Usable := by
  refine ⟨fun dialect => ofLayers_eq_ok_iff,
    fun fault => ⟨exists_of_ofLayers_eq_error, ?_⟩, fun dialect hmade => ?_⟩
  · rintro ⟨front, layer, back, rfl, hfront, hfault⟩
    exact ofLayers_eq_error hfront hfault back
  · obtain ⟨layers, hlayers⟩ := hmade.exists_layers
    exact usable_of_ofLayers hlayers

/-- The first layer takes the nil type and the place in the union away.  The second one gives both
back, but too late. -/
theorem first_unusable_layer_decides_of_late_repair :
    ofLayers [⟨none, some "", none, some "T", none⟩,
        ⟨none, some "nil", none, some "\x7b\x7d?", none⟩] = .error .emptyNilType ∧
      (resolved [⟨none, some "", none, some "T", none⟩,
        ⟨none, some "nil", none, some "\x7b\x7d?", none⟩]).Usable ∧
      Made (resolved [⟨none, some "nil", none, some "\x7b\x7d?", none⟩]) ∧
      (resolved [⟨none, some "nil", none, some "\x7b\x7d?", none⟩]).Usable := by
  have hfault : Fault.IsFirstIn (resolved ([] ++ [⟨none, some "", none, some "T", none⟩]))
      .emptyNilType := ⟨rfl, [], _, rfl, nofun⟩
  have hextend : standard.extend ⟨none, some "nil", none, some "\x7b\x7d?", none⟩ =
      .ok (resolved [⟨none, some "nil", none, some "\x7b\x7d?", none⟩]) := rfl
  have hmade := Made.extend .standard hextend
  obtain ⟨-, herror, husable⟩ := first_unusable_layer_decides
    [⟨none, some "", none, some "T", none⟩, ⟨none, some "nil", none, some "\x7b\x7d?", none⟩]
  exact ⟨(herror _).mpr ⟨[], _, _, rfl, usableThroughout_nil, hfault⟩,
    (fault?_eq_none_iff _).mp rfl, hmade, husable _ hmade⟩

end Dialect
end TypeStub
