import ChatCommands.Proofs.Act
import ChatCommands.Proofs.Glob.Segments

/-!
# Trees of modules

The modules in a package are those that stand directly in it and those in the packages among them.
A walk lists them all, as the names get longer from package to package, so that no more packages
stand in each other than there are modules. What cannot be loaded is listed, but not looked into.

Main statements: `walk_gives`, `mem_descend_iff`, `mem_treeNames_iff`.
-/

namespace ChatCommands.Glob

variable {σ : Type}

/-! ### Modules in a package -/

/-- Loading a module ends well if it `opens`, and finds it missing otherwise, whatever was loaded
before. -/
def Loads (load : String → Act σ Unit) (opens : String → Bool) (name : String) : Prop :=
  (load name).attempt.Gives (if opens name then .ok () else .error (.bare .missingModule))

/-- A module stands in a package at any depth, where `opens` are the packages that can be loaded. -/
inductive Below (entries : List Entry) (opens : String → Bool) : String → String → Prop
  | child {package e} (he : e ∈ entries) (hchild : isChild package.toList e.name.toList = true) :
      Below entries opens package e.name
  | deeper {package e name} (he : e ∈ entries)
      (hchild : isChild package.toList e.name.toList = true) (hpackage : e.isPackage = true)
      (hopens : opens e.name = true) (h : Below entries opens e.name name) :
      Below entries opens package name

/-- A module is of the tree of a package: it is the package itself or stands in it. -/
def InTree (entries : List Entry) (opens : String → Bool) (package name : String) : Prop :=
  name = package ∨ (∃ e ∈ entries, e.name = package ∧ e.isPackage = true) ∧
    Below entries opens package name

variable {entries : List Entry} {opens : String → Bool} {load : String → Act σ Unit}
  {package name : String} {e : Entry} {fuel : Nat}

/-! ### Names in a package -/

lemma isChild_iff {package name : List Char} : isChild package name = true ↔
    ∃ segment, '.' ∉ segment ∧ name = package ++ '.' :: segment := by
  have hchild : isChild package name = true ↔
      dotted (splitOn '.' name).dropLast = package ∧ 2 ≤ (splitOn '.' name).length := by
    rw [isChild]
    split
    case h_1 hnil => exact absurd hnil (splitOn_ne_nil '.' name)
    case h_2 => simp
  rw [hchild]
  constructor
  · rintro ⟨hpackage, hlength⟩
    have hname := splitOn_ne_nil '.' name
    have hne : (splitOn '.' name).dropLast ≠ [] := by
      rw [Ne, ← List.length_eq_zero_iff, List.length_dropLast]
      omega
    refine ⟨(splitOn '.' name).getLast hname, notMem_of_mem_splitOn (List.getLast_mem hname), ?_⟩
    rw [← hpackage, ← dotted_concat hne, List.dropLast_append_getLast, dotted_splitOn]
  · rintro ⟨segment, hdot, rfl⟩
    have hlength := List.length_pos_iff.mpr (splitOn_ne_nil '.' package)
    rw [splitOn_concat package hdot, List.dropLast_concat, dotted_splitOn, List.length_append,
      List.length_singleton]
    exact ⟨rfl, by omega⟩

lemma length_lt_of_isChild (h : isChild package.toList name.toList = true) :
    package.length < name.length := by
  obtain ⟨segment, -, hname⟩ := isChild_iff.mp h
  rw [← String.length_toList, ← String.length_toList, hname, List.length_append,
    List.length_cons]
  omega

lemma mem_children_iff :
    e ∈ children entries package ↔ e ∈ entries ∧ isChild package.toList e.name.toList = true := by
  rw [children, List.mem_mergeSort, List.mem_filter]

/-! ### Walking -/

/-- The names that a walk lists. -/
def descend (entries : List Entry) (opens : String → Bool) : (fuel : Nat) → String → List String
  | 0, _ => []
  | fuel + 1, package => (children entries package).flatMap fun e =>
    e.name :: if e.isPackage && opens e.name then descend entries opens fuel e.name else []

lemma walk_gives (hloads : ∀ e ∈ entries, e.isPackage = true → Below entries opens package e.name →
      Loads load opens e.name) :
    (walk entries load fuel package).Gives (descend entries opens fuel package) := by
  induction fuel generalizing package with
  | zero => exact .pure []
  | succ fuel ih =>
    rw [walk, descend, List.flatMap_def]
    refine .bind (Act.Gives.mapM fun e hmem => ?_) (.pure _)
    obtain ⟨he, hchild⟩ := mem_children_iff.mp hmem
    cases hpackage : e.isPackage with
    | false => exact .pure [e.name]
    | true =>
      refine .bind (hloads e he hpackage (.child he hchild)) ?_
      cases hopens : opens e.name with
      | false => exact .pure [e.name]
      | true =>
        have hbelow := fun d hd hpackage' h =>
          hloads d hd hpackage' (.deeper he hchild hpackage hopens h)
        exact (ih hbelow).bind (.pure _)

/-- How many modules have a longer name than a package. -/
def longerNamed (entries : List Entry) (package : String) : Nat :=
  entries.countP fun e => package.length < e.name.length

lemma longerNamed_lt (he : e ∈ entries) (hlength : package.length < e.name.length) :
    longerNamed entries e.name < longerNamed entries package := by
  obtain ⟨before, after, rfl⟩ := List.append_of_mem he
  have hmono : ∀ entries, longerNamed entries e.name ≤ longerNamed entries package := fun entries =>
    List.countP_mono_left fun d _ hd => by simp at hd ⊢; omega
  have hbefore := hmono before
  have hafter := hmono after
  simp only [longerNamed, List.countP_append, List.countP_cons] at hbefore hafter ⊢
  simp [hlength]
  omega

lemma below_of_mem_descend (h : name ∈ descend entries opens fuel package) :
    Below entries opens package name := by
  induction fuel generalizing package with
  | zero => cases h
  | succ fuel ih =>
    obtain ⟨e, hmem, h⟩ := List.mem_flatMap.mp h
    obtain ⟨he, hchild⟩ := mem_children_iff.mp hmem
    rcases List.mem_cons.mp h with rfl | h
    · exact .child he hchild
    · split at h
      case isFalse => cases h
      case isTrue hinto =>
        rw [Bool.and_eq_true] at hinto
        exact .deeper he hchild hinto.1 hinto.2 (ih h)

lemma mem_descend_of_below (h : Below entries opens package name)
    (hfuel : longerNamed entries package ≤ fuel) : name ∈ descend entries opens fuel package := by
  -- a package has a longer name than the one it stands in, so its own modules need less fuel
  induction h generalizing fuel with
  | child he hchild =>
    have hlt := longerNamed_lt he (length_lt_of_isChild hchild)
    obtain ⟨fuel, rfl⟩ : ∃ n, fuel = n + 1 := ⟨fuel - 1, by omega⟩
    exact List.mem_flatMap.mpr ⟨_, mem_children_iff.mpr ⟨he, hchild⟩, List.mem_cons_self⟩
  | deeper he hchild hpackage hopens _ ih =>
    have hlt := longerNamed_lt he (length_lt_of_isChild hchild)
    obtain ⟨fuel, rfl⟩ : ∃ n, fuel = n + 1 := ⟨fuel - 1, by omega⟩
    refine List.mem_flatMap.mpr ⟨_, mem_children_iff.mpr ⟨he, hchild⟩, List.mem_cons_of_mem _ ?_⟩
    rw [if_pos (by rw [hpackage, hopens]; rfl)]
    exact ih (by omega)

/-- A walk lists just the modules in a package. -/
lemma mem_descend_iff :
    name ∈ descend entries opens entries.length package ↔ Below entries opens package name :=
  ⟨below_of_mem_descend, fun h => mem_descend_of_below h List.countP_le_length⟩

/-- Whether a name is that of a package. -/
def isPackageName (entries : List Entry) (name : String) : Bool :=
  entries.any fun e => e.name = name && e.isPackage

lemma isPackageName_iff : isPackageName entries package = true ↔
    ∃ e ∈ entries, e.name = package ∧ e.isPackage = true := by
  simp [isPackageName]

/-- The names of the tree of a package, the package first. -/
def treeNames (entries : List Entry) (opens : String → Bool) (package : String) : List String :=
  package :: if isPackageName entries package then
    descend entries opens entries.length package else []

lemma mem_treeNames_iff :
    name ∈ treeNames entries opens package ↔ InTree entries opens package name := by
  rw [treeNames, List.mem_cons, InTree, ← isPackageName_iff]
  split_ifs with h
  · rw [mem_descend_iff]
    simp [h]
  · simp [h]

/-! ### Sorting names -/

lemma mem_foldl_kept {names kept : List String} :
    name ∈ names.foldl (fun kept n => if kept.contains n then kept else n :: kept) kept ↔
      name ∈ kept ∨ name ∈ names := by
  induction names generalizing kept with
  | nil => simp
  | cons first names ih =>
    rw [List.foldl_cons, ih]
    split_ifs with h
    · have hmem := List.contains_iff_mem.mp h
      grind
    · grind

lemma nodup_foldl_kept {names kept : List String} (h : kept.Nodup) :
    (names.foldl (fun kept n => if kept.contains n then kept else n :: kept) kept).Nodup := by
  induction names generalizing kept with
  | nil => exact h
  | cons first names ih =>
    rw [List.foldl_cons]
    split_ifs with hmem
    · exact ih h
    · exact ih (List.nodup_cons.mpr ⟨fun h => hmem (List.contains_iff_mem.mpr h), h⟩)

lemma mem_sorted {names : List String} : name ∈ sorted names ↔ name ∈ names := by
  rw [sorted, List.mem_mergeSort, mem_foldl_kept]
  simp

lemma nodup_sorted (names : List String) : (sorted names).Nodup :=
  (List.mergeSort_perm _ _).nodup_iff.mpr (nodup_foldl_kept List.nodup_nil)

lemma pairwise_sorted (names : List String) : (sorted names).Pairwise (· ≤ ·) := by
  have htrans : ∀ a b c : String, decide (a ≤ b) = true → decide (b ≤ c) = true →
      decide (a ≤ c) = true := fun a b c hab hbc =>
    decide_eq_true (String.le_trans (of_decide_eq_true hab) (of_decide_eq_true hbc))
  have htotal : ∀ a b : String, (decide (a ≤ b) || decide (b ≤ a)) = true := by
    intro a b
    simpa using String.le_total a b
  exact (List.pairwise_mergeSort htrans htotal _).imp of_decide_eq_true

end ChatCommands.Glob
