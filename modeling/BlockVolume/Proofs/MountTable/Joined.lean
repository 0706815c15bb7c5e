import BlockVolume.Proofs.MountTable.KernelLines
import BlockVolume.Proofs.MountTable.References

namespace BlockVolume

open Text

namespace MountEntry

variable {line : List Char}

def Silent (line : List Char) : Prop :=
  ∀ before after, splitFirst " - ".toList line = some (before, after) →
    (words before).length < 5 ∨ (words after).length < 2

theorem ofLine?_eq_none_iff : ofLine? line = none ↔ Silent line := by
  rw [Silent, ofLine?]
  cases splitFirst " - ".toList line with
  | none => simp
  | some cut =>
      obtain ⟨before, after⟩ := cut
      have hshort : (∀ place, (words before)[4]? = some place →
          ∀ fstype, (words after)[0]? = some fstype → ∀ source, (words after)[1]? ≠ some source) ↔
          (words before).length < 5 ∨ (words after).length < 2 := by
        constructor
        · intro h
          by_contra! hlong
          exact h _ (List.getElem?_eq_getElem hlong.1) _ (List.getElem?_eq_getElem (by omega)) _
            (List.getElem?_eq_getElem hlong.2)
        · intro hshort place hplace fstype _ source hsource
          have hbefore := (List.getElem?_eq_some_iff.1 hplace).1
          have hafter := (List.getElem?_eq_some_iff.1 hsource).1
          omega
      simpa using hshort

end MountEntry

namespace MountTable

variable {p : Path} {text : String} {lines padded : List String}

theorem parse_of_newline_not_mem (h : '\n' ∉ text.toList) :
    parse text = (MountEntry.ofLine? text.toList).toList := by
  rw [parse_eq_splitOn, List.splitOn_eq_singleton h]
  cases hline : MountEntry.ofLine? text.toList <;> simp [hline]

/-- A line feed between two texts is a seam: no line goes across it, and a carriage return before it
is a blank at the end of a line. -/
theorem parse_append_newline (a b : String) : parse (a ++ "\n" ++ b) = parse a ++ parse b := by
  have htext : (a ++ "\n" ++ b).toList = a.toList ++ '\n' :: b.toList := by simp
  rw [parse_eq_splitOn, htext, List.splitOn_append_cons_self, List.filterMap_append,
    ← parse_eq_splitOn, ← parse_eq_splitOn]

theorem parse_intercalate (lines : List String) :
    parse ("\n".intercalate lines) = lines.flatMap parse := by
  induction lines with
  | nil => rfl
  | cons line rest ih =>
      cases rest with
      | nil => rw [String.intercalate_singleton, List.flatMap_singleton]
      | cons next rest =>
          rw [String.intercalate_cons_cons, parse_append_newline, ih]
          rfl

/-- The second list has the lines of the first in their order, and among them, before them and after
them any texts in which no mount is found. -/
inductive Padded : List String → List String → Prop
  | nil : Padded [] []
  | line (text : String) {lines padded : List String} (rest : Padded lines padded) :
      Padded (text :: lines) (text :: padded)
  | silent {text : String} (h : parse text = []) {lines padded : List String}
      (rest : Padded lines padded) : Padded lines (text :: padded)

theorem Padded.flatMap_parse (h : Padded lines padded) :
    padded.flatMap parse = lines.flatMap parse := by
  induction h with
  | nil => rfl
  | line text _ ih => rw [List.flatMap_cons, List.flatMap_cons, ih]
  | silent htext _ ih => rw [List.flatMap_cons, htext, List.nil_append, ih]

theorem find_append (p : Path) (entries later : List MountEntry) :
    find p (entries ++ later) = if isMounted p later then find p later else find p entries := by
  have happend : find p (entries ++ later) = (find p later).or (find p entries) := by
    rw [find, List.reverse_append, List.find?_append]
    rfl
  rw [happend, isMounted]
  cases find p later <;> rfl

/-- Two texts on lines of their own hold what each of them holds, a look-up goes to the second one
first, and lines in which no mount is found can be put in anywhere. -/
theorem parse_joined (a b : String) (p : Path) (h : Padded lines padded) :
    parse (a ++ "\n" ++ b) = parse a ++ parse b ∧
      parse ("\n".intercalate padded) = parse ("\n".intercalate lines) ∧
      (∀ text : String, '\n' ∉ text.toList →
        (parse text = [] ↔ MountEntry.Silent text.toList)) ∧
      find p (parse (a ++ "\n" ++ b)) =
        if isMounted p (parse b) then find p (parse b) else find p (parse a) := by
  refine ⟨parse_append_newline a b, ?_, fun text htext => ?_, ?_⟩
  · rw [parse_intercalate, parse_intercalate, h.flatMap_parse]
  · rw [parse_of_newline_not_mem htext, Option.toList_eq_nil_iff, MountEntry.ofLine?_eq_none_iff]
  · rw [parse_append_newline, find_append]

theorem parse_joined_noise :
    let root := "36 28 0:31 / / rw,relatime - ext4 /dev/sda3 rw"
    let disk := "37 28 8:16 / /mnt rw shared:1 - xfs /dev/sdb rw"
    let lines := [root, disk]
    let padded := ["garbage", root, "", "36 28 0:31 / - ext4 /dev/sdc rw",
      "38 28 8:32 / /mnt rw - ext4", disk, "38 28 8:32 / /mnt rw ext4 /dev/sdc rw\r", " - \r"]
    Padded lines padded ∧
      parse ("\n".intercalate padded) =
        [⟨⟨"/"⟩, "ext4", "/dev/sda3"⟩, ⟨⟨"/mnt"⟩, "xfs", "/dev/sdb"⟩] ∧
      find ⟨"/"⟩ (parse (root ++ "\r" ++ "\n" ++ disk)) = some ⟨⟨"/"⟩, "ext4", "/dev/sda3"⟩ := by
  intro root disk lines padded
  have hpadded : Padded lines padded :=
    .silent (by decide) <| .line root <| .silent (by decide) <| .silent (by decide) <|
      .silent (by decide) <| .line disk <| .silent (by decide) <| .silent (by decide) .nil
  obtain ⟨-, hparse, -, hfind⟩ := parse_joined (root ++ "\r") disk ⟨"/"⟩ hpadded
  exact ⟨hpadded, hparse.trans (by decide +kernel), hfind.trans (by decide +kernel)⟩

end MountTable

end BlockVolume
