/-
**The names of dumps.**

The texts of a key are written in hexadecimal digits, none of which is a point, so the first point
of a file's name stands between them. A temporary file has the ending that no machine's file has, so
neither is taken for the other.

* `MachineKey.ofFileName?_fileName`: a key is read again from the name of its file.
* `MachineKey.ofFileName?_temporaryName`: the name of a temporary file tells no key.
* `MachineKey.isStep_temporaryName_iff`: the one key without a temporary file.
-/

import Statechart.Store.Directory
import Statechart.Proofs.Text.Hex
import Mathlib.Logic.Function.Defs

namespace Statechart

open Text

theorem Text.hexChars_eq_nil_iff {bytes : Bytes} : hexChars bytes = [] ↔ bytes = [] := by
  cases bytes with
  | nil => exact iff_of_true rfl rfl
  | cons byte bytes =>
    have digits : hexChars (byte :: bytes) ≠ [] := List.cons_ne_nil _ _
    exact iff_of_false digits (List.cons_ne_nil _ _)

/-- No hexadecimal digit is a point. -/
theorem Text.ne_point_of_mem_hexChars {bytes : Bytes} {digit : Char}
    (member : digit ∈ hexChars bytes) : digit ≠ '.' := by
  have all : ∀ value : Fin 16, hexDigit value ≠ '.' := by decide
  obtain ⟨byte, -, among⟩ := List.mem_flatMap.1 member
  have bound := byte.toNat_lt
  rcases List.mem_cons.1 among with rfl | last
  · exact all ⟨byte.toNat / 16, by omega⟩
  · rw [List.mem_singleton.1 last]
    exact all ⟨byte.toNat % 16, by omega⟩

theorem Text.utf8_eq_nil_iff {text : String} : utf8 text = [] ↔ text = "" :=
  ⟨fun none => utf8_injective none, fun same => same ▸ rfl⟩

namespace MachineKey

/-- The key whose texts are both empty. -/
def nameless : MachineKey where
  owner := ""
  chartType := ""

theorem hexText?_hexChars (text : String) : hexText? (hexChars (utf8 text)) = some text := by
  unfold hexText?
  rw [ofHexChars?_hexChars]
  exact ofUtf8?_utf8 text

/-- What stands around the first point tells the texts of the key. -/
theorem ofStem?_append {owner chartType : List Char} (pointless : '.' ∉ owner) :
    ofStem? (owner ++ '.' :: chartType) = do
      let owner ← hexText? owner
      let chartType ← hexText? chartType
      return { owner, chartType } := by
  have digits : ∀ digit ∈ owner, decide (digit ≠ '.') = true :=
    fun digit member => decide_eq_true fun point => pointless (point ▸ member)
  have before : (owner ++ '.' :: chartType).takeWhile (· ≠ '.') = owner := by
    rw [List.takeWhile_append_of_pos digits]
    exact List.append_nil _
  have behind : (owner ++ '.' :: chartType).dropWhile (· ≠ '.') = '.' :: chartType := by
    rw [List.dropWhile_append_of_pos digits]
    rfl
  unfold ofStem?
  rw [behind, before]

/-- A key is read again from what its file's name has before the ending. -/
theorem ofStem?_stem (key : MachineKey) : ofStem? key.stem = some key := by
  unfold stem
  rw [ofStem?_append fun member => ne_point_of_mem_hexChars member rfl, hexText?_hexChars,
    hexText?_hexChars]
  rfl

/-- **A key is read again from the name of its file.** -/
theorem ofFileName?_fileName (key : MachineKey) : ofFileName? key.fileName = some key := by
  have ending : beforeEnding? machineEnding key.fileName.toList = some key.stem := by
    unfold fileName
    rw [beforeEnding?_eq_some_iff, String.toList_ofList]
  unfold ofFileName?
  rw [ending]
  exact ofStem?_stem key

/-- Different keys have different files. -/
theorem fileName_injective : Function.Injective fileName := by
  intro first second same
  refine Option.some.inj ?_
  rw [← ofFileName?_fileName first, same, ofFileName?_fileName]

/-- There is only a point before the ending if both texts are empty. -/
theorem stem_eq_point_iff {key : MachineKey} : key.stem = ['.'] ↔ key = nameless := by
  constructor
  · intro point
    have parts : hexChars (utf8 key.owner) = [] ∧ hexChars (utf8 key.chartType) = [] := by
      unfold stem at point
      cases owner : hexChars (utf8 key.owner) with
      | nil =>
        rw [owner] at point
        exact ⟨rfl, (List.cons.inj point).2⟩
      | cons digit digits =>
        rw [owner] at point
        have rest := (List.cons.inj point).2
        exact absurd rest (List.append_ne_nil_of_right_ne_nil _ (List.cons_ne_nil _ _))
    have owner := utf8_eq_nil_iff.1 (hexChars_eq_nil_iff.1 parts.1)
    have chartType := utf8_eq_nil_iff.1 (hexChars_eq_nil_iff.1 parts.2)
    cases key
    exact (MachineKey.mk.injEq ..).mpr ⟨owner, chartType⟩
  · rintro rfl
    rfl

theorem temporaryName_of_ne {key : MachineKey} (named : key ≠ nameless) :
    key.temporaryName = String.ofList (key.stem ++ temporaryEnding) :=
  if_neg fun point => named (stem_eq_point_iff.1 point)

/-- **The name of a temporary file tells no key.** -/
theorem ofFileName?_temporaryName (key : MachineKey) : ofFileName? key.temporaryName = none := by
  have ending : beforeEnding? machineEnding key.temporaryName.toList = none := by
    by_cases named : key = nameless
    · subst named
      rfl
    · rw [temporaryName_of_ne named, String.toList_ofList, Option.eq_none_iff_forall_ne_some]
      intro start found
      have same := congrArg List.getLast? (beforeEnding?_eq_some_iff.1 found)
      rw [List.getLast?_append, List.getLast?_append] at same
      cases same
  unfold ofFileName?
  rw [ending]
  rfl

/-- No machine's file has the name of a temporary file. -/
theorem temporaryName_ne_fileName (key other : MachineKey) :
    key.temporaryName ≠ other.fileName := by
  intro same
  have told := ofFileName?_temporaryName key
  rw [same, ofFileName?_fileName] at told
  cases told

/-- A name without the ending of temporary files is none of theirs. -/
theorem ne_temporaryName {name : String} (other : beforeEnding? temporaryEnding name.toList = none)
    (below : name ≠ "..") (key : MachineKey) : name ≠ key.temporaryName := by
  by_cases named : key = nameless
  · rw [named]
    exact below
  · rintro rfl
    rw [temporaryName_of_ne named, String.toList_ofList,
      beforeEnding?_eq_some_iff.2 rfl] at other
    cases other

/-- **The key of two empty texts is the one without a temporary file.** -/
theorem isStep_temporaryName_iff {key : MachineKey} :
    FilePath.isStep key.temporaryName = true ↔ key = nameless := by
  by_cases named : key = nameless
  · subst named
    exact iff_of_true (by decide) rfl
  · have long : 3 < key.temporaryName.length := by
      rw [temporaryName_of_ne named, String.length_ofList, List.length_append]
      exact Nat.le_add_left temporaryEnding.length _
    have differs : ∀ name : String, name.length ≤ 3 → key.temporaryName ≠ name := by
      rintro name short rfl
      omega
    refine iff_of_false (fun step => ?_) named
    unfold FilePath.isStep at step
    simp only [Bool.or_eq_true, decide_eq_true_eq] at step
    rcases step with (empty | point) | points
    · exact differs _ (by decide) empty
    · exact differs _ (by decide) point
    · exact differs _ (by decide) points

/-- The name of a temporary file is not longer than that of the machine's file. -/
theorem allows_temporaryName {key : MachineKey} (allowed : Directory.allows key.fileName = true) :
    Directory.allows key.temporaryName = true := by
  by_cases named : key = nameless
  · subst named
    decide
  · have bytes : ∀ ending : List Char, (String.ofList (key.stem ++ ending)).utf8ByteSize =
        (String.ofList key.stem).utf8ByteSize + (String.ofList ending).utf8ByteSize := by
      intro ending
      rw [String.ofList_append, String.utf8ByteSize_append]
    have machine : (String.ofList machineEnding).utf8ByteSize = 6 := by decide
    have temporary : (String.ofList temporaryEnding).utf8ByteSize = 4 := by decide
    unfold Directory.allows fileName at allowed
    unfold Directory.allows
    rw [decide_eq_true_eq, bytes, machine] at allowed
    rw [temporaryName_of_ne named, decide_eq_true_eq, bytes, temporary]
    omega

/-- A file whose name is allowed has a temporary file that can be written, apart from one. -/
theorem canWrite_temporaryName_iff {key : MachineKey}
    (allowed : Directory.allows key.fileName = true) :
    Directory.canWrite key.temporaryName = true ↔ key ≠ nameless := by
  unfold Directory.canWrite
  rw [allows_temporaryName allowed, Bool.true_and, Bool.not_eq_true', ← Bool.not_eq_true,
    isStep_temporaryName_iff]

end MachineKey

end Statechart
