import BankedZ80.Proofs.Text.ByteOrder
import BankedZ80.Transfer

/-!
# Which file is delivered

`Chosen` says which file a request is met with, of those that are there: the least of those whose name
is asked for, or else the least of all, in the order of the bytes of their names. There is one such
file at most (`Chosen.unique`). It is what is picked from a listing (`chooseImport_eq_some`), so the
order of the listing does not matter (`chooseImport_perm`).
-/

namespace BankedZ80

namespace FileTransfer

open Json (textBytes)

/-- The name that comes first in the order of their bytes, of those that satisfy `p`. -/
structure Least (p : String → Prop) (file : String) : Prop where
  holds : p file
  least : ∀ other, p other → textBytes file ≤ textBytes other

/-- A file has the last component of the requested name for its name, the case of ASCII letters
aside. -/
def Matches (requested file : String) : Prop :=
  ∃ wanted, Path.fileName? requested = some wanted ∧ foldCase file = foldCase wanted

/-- **The file to deliver** of those that satisfy `p`. -/
inductive Chosen (p : String → Prop) (requested file : String) : Prop where
  | matching (least : Least (fun other => p other ∧ Matches requested other) file)
  | first (unmatched : ∀ other, p other → ¬Matches requested other) (least : Least p file)

variable {p q : String → Prop} {file file' requested : String} {files files' : List String}

theorem least_congr (same : ∀ name, p name ↔ q name) : Least p file ↔ Least q file := by
  have eq : p = q := funext fun name => propext (same name)
  rw [eq]

theorem Least.unique (h : Least p file) (h' : Least p file') : file = file' :=
  String.le_antisymm (Text.textBytes_le_iff.1 (h.least file' h'.holds))
    (Text.textBytes_le_iff.1 (h'.least file h.holds))

namespace Chosen

theorem holds (h : Chosen p requested file) : p file := by
  cases h with
  | matching least => exact least.holds.1
  | first _ least => exact least.holds

theorem congr (same : ∀ name, p name ↔ q name) : Chosen p requested file ↔ Chosen q requested file := by
  have eq : p = q := funext fun name => propext (same name)
  rw [eq]

/-- **There is only one such file.** -/
theorem unique (h : Chosen p requested file) (h' : Chosen p requested file') : file = file' := by
  cases h with
  | matching least =>
      cases h' with
      | matching least' => exact least.unique least'
      | first unmatched _ => exact absurd least.holds.2 (unmatched file least.holds.1)
  | first unmatched least =>
      cases h' with
      | matching least' => exact absurd least'.holds.2 (unmatched file' least'.holds.1)
      | first _ least' => exact least.unique least'

end Chosen

/-! ### The choice from a listing -/

/-- The first item of a sorted list that satisfies a condition is the least. -/
theorem find?_eq_some_iff_least {sorted : List String} (h : sorted.Pairwise (· ≤ ·))
    (test : String → Bool) :
    sorted.find? test = some file ↔ Least (fun name => name ∈ sorted ∧ test name = true) file := by
  induction sorted with
  | nil => exact ⟨nofun, fun least => absurd least.holds.1 List.not_mem_nil⟩
  | cons first rest ih =>
      obtain ⟨before, sorted⟩ := List.pairwise_cons.1 h
      by_cases passes : test first = true
      · have least : Least (fun name => name ∈ first :: rest ∧ test name = true) first := by
          refine ⟨⟨List.mem_cons_self, passes⟩, fun other ⟨mem, _⟩ => ?_⟩
          apply Text.textBytes_le_iff.2
          rcases List.mem_cons.1 mem with rfl | later
          · exact String.le_refl other
          · exact before other later
        rw [List.find?_cons_of_pos passes, Option.some_inj]
        constructor
        · rintro rfl
          exact least
        · exact least.unique
      · rw [List.find?_cons_of_neg passes, ih sorted]
        refine least_congr fun name => ?_
        constructor
        · rintro ⟨later, good⟩
          exact ⟨List.mem_cons_of_mem first later, good⟩
        · rintro ⟨mem, good⟩
          rcases List.mem_cons.1 mem with rfl | later
          · exact absurd good passes
          · exact ⟨later, good⟩

theorem head?_eq_some_iff_least {sorted : List String} (h : sorted.Pairwise (· ≤ ·)) :
    sorted.head? = some file ↔ Least (· ∈ sorted) file := by
  have first : sorted.head? = sorted.find? fun _ => true := by cases sorted <;> rfl
  rw [first, find?_eq_some_iff_least h]
  exact least_congr fun name => and_iff_left rfl

theorem pairwise_sorted (files : List String) :
    (files.mergeSort fun a b => a ≤ b).Pairwise (· ≤ ·) := by
  have sorted := @List.pairwise_mergeSort String (fun a b => decide (a ≤ b))
    (fun a b c ab bc => decide_eq_true (String.le_trans (of_decide_eq_true ab) (of_decide_eq_true bc)))
    (fun a b => by simpa using String.le_total a b) files
  exact sorted.imp fun h => of_decide_eq_true h

theorem mem_sorted {name : String} : (name ∈ files.mergeSort fun a b => a ≤ b) ↔ name ∈ files :=
  (List.mergeSort_perm files _).mem_iff

theorem least_of_head? (h : (files.mergeSort fun a b => a ≤ b).head? = some file) :
    Least (· ∈ files) file :=
  (least_congr fun _ => mem_sorted).1 ((head?_eq_some_iff_least (pairwise_sorted files)).1 h)

theorem chosen_of_chooseImport (h : chooseImport files requested = some file) :
    Chosen (· ∈ files) requested file := by
  unfold chooseImport at h
  cases named : Path.fileName? requested with
  | none =>
      rw [named] at h
      have nameless : ∀ other, other ∈ files → ¬Matches requested other := by
        rintro other - ⟨wanted, last, -⟩
        cases named.symm.trans last
      exact .first nameless (least_of_head? h)
  | some wanted =>
      have matches_iff (name : String) : Matches requested name ↔ foldCase name = foldCase wanted := by
        constructor
        · rintro ⟨other, last, same⟩
          cases named.symm.trans last
          exact same
        · exact fun same => ⟨wanted, named, same⟩
      rw [named] at h
      cases found : (files.mergeSort fun a b => a ≤ b).find?
          fun file => foldCase file = foldCase wanted with
      | none =>
          have unmatched : ∀ other, other ∈ files → ¬Matches requested other := by
            intro other mem
            have fails := List.find?_eq_none.1 found other (mem_sorted.2 mem)
            rw [matches_iff]
            exact fun same => fails (decide_eq_true same)
          simp only [Option.bind_eq_bind, Option.bind_some, found] at h
          exact .first unmatched (least_of_head? h)
      | some other =>
          simp only [Option.bind_eq_bind, Option.bind_some, found] at h
          cases h
          refine .matching ((least_congr fun name => ?_).1
            ((find?_eq_some_iff_least (pairwise_sorted files) _).1 found))
          rw [mem_sorted, decide_eq_true_iff, matches_iff]

theorem chooseImport_eq_none : chooseImport files requested = none ↔ files = [] := by
  constructor
  · intro h
    have first : (files.mergeSort fun a b => a ≤ b).head? = none := by
      change Option.orElse _ _ = none at h
      rw [Option.orElse_eq_or, Option.or_eq_none_iff] at h
      exact h.2
    have perm := List.mergeSort_perm files fun a b => a ≤ b
    rw [List.head?_eq_none_iff.1 first] at perm
    exact List.nil_perm.1 perm
  · rintro rfl
    cases found : chooseImport [] requested with
    | none => rfl
    | some file => exact absurd (chosen_of_chooseImport found).holds List.not_mem_nil

/-- **The choice from a listing.** -/
theorem chooseImport_eq_some :
    chooseImport files requested = some file ↔ Chosen (· ∈ files) requested file := by
  refine ⟨chosen_of_chooseImport, fun chosen => ?_⟩
  cases found : chooseImport files requested with
  | none =>
      rw [chooseImport_eq_none.1 found] at chosen
      exact absurd chosen.holds List.not_mem_nil
  | some other => rw [chosen.unique (chosen_of_chooseImport found)]

/-- **The order of a listing does not matter.** -/
theorem chooseImport_perm (same : files.Perm files') :
    chooseImport files requested = chooseImport files' requested := by
  apply Option.ext
  intro file
  rw [chooseImport_eq_some, chooseImport_eq_some]
  exact Chosen.congr fun name => same.mem_iff

end FileTransfer

end BankedZ80
