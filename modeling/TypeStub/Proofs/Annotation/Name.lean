import Mathlib.Data.List.Basic
import Mathlib.Data.List.TakeWhile
import TypeStub.Annotation.Name

/-!
# The scan of a name

`Name.scan` takes whole units from the front of a text, a word character or a `::`
with a word character behind it, and stops where no unit stands.  So scanning what
was scanned changes nothing, a scanned path goes on exactly where a path stands
behind it, and what is scanned belongs to the language of names.
-/

namespace TypeStub
namespace Annotation

open TypeStub.Text

theorem isWord_colon : isWord ':' = false := by decide +kernel

theorem isWord_hash : isWord '#' = false := by decide +kernel

theorem ne_colon_of_isWord {c : Char} (h : isWord c = true) : c ≠ ':' := by
  intro heq
  subst heq
  rw [isWord_colon] at h
  cases h

theorem ne_hash_of_isWord {c : Char} (h : isWord c = true) : c ≠ '#' := by
  intro heq
  subst heq
  rw [isWord_hash] at h
  cases h

/-! ## Paths -/

theorem IsPath.isWord_getLast? {cs : List Char} (h : IsPath cs) :
    ∃ c, cs.getLast? = some c ∧ isWord c = true := by
  have hrun : ∀ (front : List Char) {word : List Char}, IsRun word →
      ∃ c, (front ++ word).getLast? = some c ∧ isWord c = true := by
    intro front word hword
    refine ⟨word.getLast hword.1, ?_, hword.2 _ (List.getLast_mem hword.1)⟩
    rw [List.getLast?_append, List.getLast?_eq_some_getLast hword.1, Option.some_or]
  cases h with
  | run hword => exact hrun [] hword
  | rooted hword => exact hrun [':', ':'] hword
  | @member path word _ hword =>
    have h := hrun (path ++ [':', ':']) hword
    simpa using h

theorem IsPath.ne_nil {cs : List Char} (h : IsPath cs) : cs ≠ [] := by
  intro heq
  subst heq
  obtain ⟨c, hc, -⟩ := h.isWord_getLast?
  cases hc

theorem IsPath.cons {c : Char} {cs : List Char} (hc : isWord c = true) (h : IsPath cs) :
    IsPath (c :: cs) := by
  have hrun : IsRun [c] := ⟨List.cons_ne_nil _ _, by simpa using hc⟩
  induction h with
  | run hword =>
    refine .run ⟨List.cons_ne_nil _ _, fun d hd => ?_⟩
    rcases List.mem_cons.mp hd with rfl | hd
    · exact hc
    · exact hword.2 d hd
  | rooted hword => exact .member (.run hrun) hword
  | member _ hword ih => exact .member ih hword

theorem IsPath.colons {c : Char} {cs : List Char} (hc : isWord c = true)
    (h : IsPath (c :: cs)) : IsPath (':' :: ':' :: c :: cs) := by
  generalize hpath : c :: cs = path at h
  induction h generalizing cs with
  | run hword => exact .rooted hword
  | rooted _ =>
    obtain ⟨rfl, -⟩ := List.cons.inj hpath
    exact absurd rfl (ne_colon_of_isWord hc)
  | @member front word hfront hword ih =>
    -- The front of a path is not empty, so it begins with the same character.
    rcases front with - | ⟨d, front⟩
    · exact absurd rfl hfront.ne_nil
    · obtain ⟨rfl, -⟩ := List.cons.inj hpath
      exact .member (ih rfl) hword

theorem IsName.ne_nil {cs : List Char} (h : IsName cs) : cs ≠ [] := by
  cases h with
  | path hpath => exact hpath.ne_nil
  | hash => exact List.cons_ne_nil _ _

/-- A name ends with a word character. -/
theorem IsName.isWord_getLast? {cs : List Char} (h : IsName cs) :
    ∃ c, cs.getLast? = some c ∧ isWord c = true := by
  cases h with
  | path hpath => exact hpath.isWord_getLast?
  | @hash word hword =>
    refine ⟨word.getLast hword.1, ?_, hword.2 _ (List.getLast_mem hword.1)⟩
    rw [List.getLast?_cons, List.getLast?_eq_some_getLast hword.1, Option.getD_some]

theorem isName_of_isAlphanum {cs : List Char} (hne : cs ≠ [])
    (h : cs.all Char.isAlphanum = true) : IsName cs :=
  .path (.run ⟨hne, fun c hc => isWord_of_isAlphanum (List.all_eq_true.mp h c hc)⟩)

namespace Name

theorem scanPath_cons {c : Char} (hc : isWord c = true) (cs : List Char) :
    scanPath (c :: cs) = c :: scanPath cs := by
  rw [scanPath]
  · rw [if_pos hc]
  · rintro _ _ rfl
    exact absurd rfl (ne_colon_of_isWord hc)

theorem scanPath_colons {c : Char} (hc : isWord c = true) (cs : List Char) :
    scanPath (':' :: ':' :: c :: cs) = ':' :: ':' :: c :: scanPath cs := by
  rw [scanPath, if_pos hc]

theorem scanPath_eq_nil {c : Char} (hc : isWord c = false) (hcolon : c ≠ ':') (cs : List Char) :
    scanPath (c :: cs) = [] := by
  rw [scanPath]
  · rw [if_neg (by simp [hc])]
  · exact fun _ _ h => absurd h hcolon

theorem scanPath_colon {c : Char} (hcolon : c ≠ ':') (cs : List Char) :
    scanPath (':' :: c :: cs) = [] := by
  rw [scanPath]
  · rw [if_neg (by simp [isWord_colon])]
  · rintro _ _ - h
    exact absurd (List.cons.inj h).1 hcolon

/-- A whole path goes on with the path behind it. -/
theorem scanPath_append {cs : List Char} (h : scanPath cs = cs) (rest : List Char) :
    scanPath (cs ++ rest) = cs ++ scanPath rest := by
  fun_induction scanPath cs with
  | case1 c cs hc ih =>
    have hcs : scanPath cs = cs := by simpa using h
    simp only [List.cons_append, scanPath_colons hc, ih hcs]
  | case2 => cases h
  | case3 c cs _ hc ih =>
    have hcs : scanPath cs = cs := by simpa using h
    simp only [List.cons_append, scanPath_cons hc, ih hcs]
  | case4 => cases h
  | case5 => rfl

theorem scanPath_scanPath (cs : List Char) : scanPath (scanPath cs) = scanPath cs := by
  fun_induction scanPath cs with
  | case1 c cs hc ih => rw [scanPath_colons hc, ih]
  | case2 => rfl
  | case3 c cs _ hc ih => rw [scanPath_cons hc, ih]
  | case4 => rfl
  | case5 => rfl

theorem isPath_of_scanPath {cs : List Char} (h : scanPath cs = cs) (hne : cs ≠ []) :
    IsPath cs := by
  fun_induction scanPath cs with
  | case1 c cs hc ih =>
    have hcs : scanPath cs = cs := by simpa using h
    refine IsPath.colons hc ?_
    by_cases hempty : cs = []
    · subst hempty
      exact .run ⟨List.cons_ne_nil _ _, by simpa using hc⟩
    · exact (ih hcs hempty).cons hc
  | case2 => cases h
  | case3 c cs _ hc ih =>
    have hcs : scanPath cs = cs := by simpa using h
    by_cases hempty : cs = []
    · subst hempty
      exact .run ⟨List.cons_ne_nil _ _, by simpa using hc⟩
    · exact (ih hcs hempty).cons hc
  | case4 => cases h
  | case5 => exact absurd rfl hne

theorem scanPath_run {word : List Char} (h : ∀ c ∈ word, isWord c = true) :
    scanPath word = word := by
  induction word with
  | nil => rfl
  | cons c word ih =>
    obtain ⟨hc, hword⟩ := List.forall_mem_cons.mp h
    rw [scanPath_cons hc, ih hword]

theorem scanPath_rooted {word : List Char} (h : IsRun word) :
    scanPath (':' :: ':' :: word) = ':' :: ':' :: word := by
  obtain ⟨c, cs, rfl⟩ := List.exists_cons_of_ne_nil h.1
  obtain ⟨hc, hcs⟩ := List.forall_mem_cons.mp h.2
  rw [scanPath_colons hc, scanPath_run hcs]

theorem scanPath_of_isPath {cs : List Char} (h : IsPath cs) : scanPath cs = cs := by
  induction h with
  | run hword => exact scanPath_run hword.2
  | rooted hword => exact scanPath_rooted hword
  | member _ hword ih => rw [scanPath_append ih, scanPath_rooted hword]

/-! ## Names -/

theorem scan_of_head?_ne {cs : List Char} (h : cs.head? ≠ some '#') : scan cs = scanPath cs := by
  rw [scan]
  rintro rest rfl
  exact h rfl

theorem scan_hash {word : List Char} (h : word.takeWhile isWord ≠ []) :
    scan ('#' :: word) = '#' :: word.takeWhile isWord := by
  rw [scan]
  split
  · rename_i hempty
    exact absurd hempty h
  · rename_i hword
    rw [hword]

theorem scan_hash_eq_nil {word : List Char} (h : word.takeWhile isWord = []) :
    scan ('#' :: word) = [] := by
  rw [scan, h]

theorem scanPath_eq_nil_of_scan {cs : List Char} (h : scan cs = []) : scanPath cs = [] := by
  by_cases hhash : cs.head? = some '#'
  · obtain ⟨word, rfl⟩ := List.head?_eq_some_iff.mp hhash
    exact scanPath_eq_nil isWord_hash (by decide) word
  · rwa [← scan_of_head?_ne hhash]

theorem head?_scan {cs : List Char} (h : scan cs ≠ []) : (scan cs).head? = cs.head? := by
  obtain ⟨rest, hrest⟩ := scan_prefix cs
  have hhead : (scan cs ++ rest).head? = (scan cs).head? :=
    List.head?_append_of_ne_nil (scan cs) h
  rw [← hhead, hrest]

theorem isName_scan {cs : List Char} (h : scan cs ≠ []) : IsName (scan cs) := by
  by_cases hhash : cs.head? = some '#'
  · obtain ⟨word, rfl⟩ := List.head?_eq_some_iff.mp hhash
    by_cases hword : word.takeWhile isWord = []
    · exact absurd (scan_hash_eq_nil hword) h
    · rw [scan_hash hword]
      exact .hash ⟨hword, fun c hc => List.mem_takeWhile_imp hc⟩
  · rw [scan_of_head?_ne hhash] at h ⊢
    exact .path (isPath_of_scanPath (scanPath_scanPath cs) h)

/-- A name is scanned whole. -/
theorem scan_of_isName {cs : List Char} (h : IsName cs) : scan cs = cs := by
  cases h with
  | path hpath =>
    have hscan := scanPath_of_isPath hpath
    rw [scan_of_head?_ne, hscan]
    intro hhash
    obtain ⟨word, rfl⟩ := List.head?_eq_some_iff.mp hhash
    rw [scanPath_eq_nil isWord_hash (by decide)] at hscan
    cases hscan
  | @hash word hword =>
    have hall : word.takeWhile isWord = word := List.takeWhile_eq_self_iff.mpr hword.2
    rw [scan_hash (by rw [hall]; exact hword.1), hall]

/-- What a name would take of the text behind it. -/
def continuation (name rest : List Char) : List Char :=
  if name.head? = some '#' then rest.takeWhile isWord else scanPath rest

theorem scan_append {name : List Char} (hne : name ≠ []) (h : scan name = name)
    (rest : List Char) : scan (name ++ rest) = name ++ continuation name rest := by
  by_cases hhash : name.head? = some '#'
  · obtain ⟨word, rfl⟩ := List.head?_eq_some_iff.mp hhash
    have hword : word.takeWhile isWord ≠ [] := by
      intro hempty
      rw [scan_hash_eq_nil hempty] at h
      cases h
    have hall : word.takeWhile isWord = word := by
      rw [scan_hash hword] at h
      exact (List.cons.inj h).2
    have hrun : ∀ c ∈ word, isWord c = true := by
      rw [← hall]
      exact fun c hc => List.mem_takeWhile_imp hc
    have happend : (word ++ rest).takeWhile isWord = word ++ rest.takeWhile isWord :=
      List.takeWhile_append_of_pos hrun
    rw [continuation, if_pos hhash, List.cons_append, scan_hash, happend, List.cons_append]
    rw [happend]
    exact fun hempty => hword (by rw [(List.append_eq_nil_iff.mp hempty).1]; rfl)
  · have hrest : (name ++ rest).head? ≠ some '#' := by
      rwa [List.head?_append_of_ne_nil _ hne]
    rw [scan_of_head?_ne hhash] at h
    rw [continuation, if_neg hhash, scan_of_head?_ne hrest, scanPath_append h]

theorem scan_scan (cs : List Char) : scan (scan cs) = scan cs := by
  by_cases hempty : scan cs = []
  · rw [hempty]
    rfl
  by_cases hhash : cs.head? = some '#'
  · obtain ⟨word, rfl⟩ := List.head?_eq_some_iff.mp hhash
    have hword : word.takeWhile isWord ≠ [] := fun h => hempty (scan_hash_eq_nil h)
    have htwice : (word.takeWhile isWord).takeWhile isWord = word.takeWhile isWord :=
      List.takeWhile_idem
    rw [scan_hash hword, scan_hash (by rwa [htwice]), htwice]
  · have hhead : (scan cs).head? ≠ some '#' := by rwa [head?_scan hempty]
    rw [scan_of_head?_ne hhead, scan_of_head?_ne hhash, scanPath_scanPath]

/-- A name is taken from the front of a text if it is a name and does not go on. -/
theorem scan_append_eq_iff {name : List Char} (hne : name ≠ []) (rest : List Char) :
    scan (name ++ rest) = name ↔ scan name = name ∧ continuation name rest = [] := by
  constructor
  · intro h
    have hname : scan name = name := by
      have htwice := scan_scan (name ++ rest)
      rwa [h] at htwice
    refine ⟨hname, ?_⟩
    rw [scan_append hne hname] at h
    exact List.append_right_eq_self.mp h
  · intro ⟨hname, hrest⟩
    rw [scan_append hne hname, hrest, List.append_nil]

theorem continuation_eq_nil {rest : List Char} (h : scanPath rest = []) (name : List Char) :
    continuation name rest = [] := by
  rw [continuation]
  split
  · cases rest with
    | nil => rfl
    | cons c cs =>
      have hc : isWord c = false := by
        by_contra hc
        rw [Bool.not_eq_false] at hc
        rw [scanPath_cons hc] at h
        cases h
      rw [List.takeWhile_cons_of_neg (by simp [hc])]
  · exact h

/-- Whether a name goes on is seen from the next character alone, unless that is a
colon at which no name of its own stands. -/
theorem continuation_congr {name : List Char} {c : Char} {cs : List Char}
    (h : continuation name (c :: cs) = []) (hcolon : c = ':' → scan (c :: cs) ≠ [])
    (ds : List Char) : continuation name (c :: ds) = [] := by
  by_cases hhash : name.head? = some '#'
  · rw [continuation, if_pos hhash] at h ⊢
    rw [List.takeWhile_cons] at h ⊢
    split at h
    · cases h
    · rename_i hc
      rw [if_neg hc]
  · rw [continuation, if_neg hhash] at h ⊢
    have hc : c ≠ ':' := by
      intro heq
      subst heq
      refine hcolon rfl ?_
      rwa [scan_of_head?_ne (by simp)]
    refine scanPath_eq_nil ?_ hc ds
    by_contra hword
    rw [Bool.not_eq_false] at hword
    rw [scanPath_cons hword] at h
    cases h

end Name

end Annotation
end TypeStub
