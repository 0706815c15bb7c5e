import BlockVolume.Proofs.Text.Lines
import BlockVolume.Unix.Host

namespace BlockVolume

namespace Unix

open Text

/-- The line has, between blanks, the name, an equals sign and the value. -/
def Gives (name value : String) (line : List UInt8) : Prop :=
  ∃ before after,
    (Utf8.decodeLossy line).toList = before ++ (name.toList ++ '=' :: value.toList) ++ after ∧
      (∀ c ∈ before, isBlank c = true) ∧ (∀ c ∈ after, isBlank c = true) ∧
      ∀ c ∈ value.toList.getLast?, isBlank c = false

def GivesAtMostOnce (name : String) (stdout : List UInt8) : Prop :=
  (stdout.splitOn 10).Pairwise fun a b => ¬((∃ v, Gives name v a) ∧ ∃ v, Gives name v b)

def ShowsNothing (stdout : List UInt8) : Prop :=
  ∀ name ∈ ["TYPE", "PTTYPE"], ∀ line ∈ stdout.splitOn 10, ∀ value, Gives name value line →
    value = ""

def valueIn? (name : String) (line : List Char) : Option (List Char) :=
  dropLead? (name.toList ++ ['=']) (trimChars line)

variable {name value : String} {stdout : List UInt8}

theorem not_blank_of_type :
    ∀ c ∈ ("TYPE".toList ++ ['=']).head?, isBlank c = false := by
  rintro c ⟨⟩
  rfl

theorem not_blank_of_pttype :
    ∀ c ∈ ("PTTYPE".toList ++ ['=']).head?, isBlank c = false := by
  rintro c ⟨⟩
  rfl

theorem gives_iff (hname : ∀ c ∈ (name.toList ++ ['=']).head?, isBlank c = false)
    {line : List UInt8} :
    Gives name value line ↔
      valueIn? name (Utf8.decodeLossy line).toList = some value.toList := by
  rw [valueIn?, dropLead?_eq_some, List.append_assoc, List.singleton_append]
  constructor
  · rintro ⟨before, after, hline, hbefore, hafter, hvalue⟩
    rw [hline]
    refine trimChars_surrounded hbefore hafter ?_ ?_
    · cases hn : name.toList <;> simpa [hn] using hname
    · cases hv : value.toList.getLast? with
      | none => simp [List.getLast?_append, List.getLast?_cons, hv, isBlank]
      | some c => simpa [List.getLast?_append, List.getLast?_cons, hv] using hvalue c hv
  · intro h
    obtain ⟨before, after, hline, hbefore, hafter, -, hlast⟩ :=
      trimChars_spec (Utf8.decodeLossy line).toList
    rw [h] at hline hlast
    refine ⟨before, after, hline, hbefore, hafter, fun c hc => hlast c ?_⟩
    rw [Option.mem_def] at hc ⊢
    simp [List.getLast?_append, List.getLast?_cons, hc]

theorem valueIn?_append_return (name : String) (line : List Char) :
    valueIn? name (line ++ ['\r']) = valueIn? name line := by
  rw [valueIn?, trimChars_append_blank line rfl, valueIn?]

theorem valueIn?_nil (name : String) : valueIn? name [] = none := by
  cases h : name.toList <;> simp [valueIn?, trimChars, dropLead?, h]

def valuesOf (name : String) (stdout : List UInt8) : List (List Char) :=
  (stdout.splitOn 10).filterMap fun line => valueIn? name (Utf8.decodeLossy line).toList

theorem lastValue_decodeLossy (name : String) (stdout : List UInt8) :
    lastValue name (Utf8.decodeLossy stdout) =
      ((valuesOf name stdout).getLast?).map String.ofList := by
  have hlines := filterMap_lines (valueIn?_nil name) (valueIn?_append_return name)
    (Utf8.decodeLossy stdout).toList
  rw [Utf8.splitOn_decodeLossy, List.filterMap_map] at hlines
  exact congrArg (fun values => values.getLast?.map String.ofList) hlines

theorem mem_valuesOf (hname : ∀ c ∈ (name.toList ++ ['=']).head?, isBlank c = false) :
    value.toList ∈ valuesOf name stdout ↔ ∃ line ∈ stdout.splitOn 10, Gives name value line := by
  simp only [valuesOf, List.mem_filterMap, gives_iff hname]

theorem givesAtMostOnce_iff (hname : ∀ c ∈ (name.toList ++ ['=']).head?, isBlank c = false) :
    GivesAtMostOnce name stdout ↔ (valuesOf name stdout).length ≤ 1 := by
  have hgives {line : List UInt8} : (∃ v, Gives name v line) ↔
      ∃ chars, valueIn? name (Utf8.decodeLossy line).toList = some chars := by
    simp only [gives_iff hname]
    exact ⟨fun ⟨v, h⟩ => ⟨v.toList, h⟩, fun ⟨chars, h⟩ => ⟨String.ofList chars, by simpa using h⟩⟩
  have hpairwise : GivesAtMostOnce name stdout ↔
      (valuesOf name stdout).Pairwise fun _ _ => False := by
    simp only [GivesAtMostOnce, valuesOf, hgives, List.pairwise_filterMap]
    refine Iff.of_eq (congrArg (List.Pairwise · _) (funext fun a => funext fun b => propext ?_))
    exact ⟨fun h u hu v hv => h ⟨⟨u, hu⟩, v, hv⟩, fun h ⟨⟨u, hu⟩, v, hv⟩ => h u hu v hv⟩
  rw [hpairwise]
  match valuesOf name stdout with
  | [] => simp
  | [v] => simp
  | u :: v :: values =>
      exact iff_of_false (fun h => (List.pairwise_cons.1 h).1 v List.mem_cons_self) (by simp)

theorem lastValue_eq_some_iff (hname : ∀ c ∈ (name.toList ++ ['=']).head?, isBlank c = false)
    (honce : GivesAtMostOnce name stdout) :
    lastValue name (Utf8.decodeLossy stdout) = some value ↔
      ∃ line ∈ stdout.splitOn 10, Gives name value line := by
  rw [← mem_valuesOf hname, lastValue_decodeLossy]
  match valuesOf name stdout, (givesAtMostOnce_iff hname).1 honce with
  | [], _ => simp
  | [v], _ => simp [← String.toList_inj, eq_comm]

theorem contentOf_eq_blank_iff {printed : String} :
    contentOf printed = .blank ↔
      ∀ name ∈ ["TYPE", "PTTYPE"], ∀ value, lastValue name printed = some value → value = "" := by
  have hgiven (name : String) : (lastValue name printed).filter (· ≠ "") = none ↔
      ∀ value, lastValue name printed = some value → value = "" := by
    simp [Option.filter_eq_none_iff]
  rw [List.forall_mem_cons, List.forall_mem_singleton, ← hgiven, ← hgiven]
  dsimp only [contentOf]
  cases (lastValue "TYPE" printed).filter (· ≠ "") <;>
    cases (lastValue "PTTYPE" printed).filter (· ≠ "") <;> simp only [reduceCtorEq, and_self,
      and_false, false_and]

theorem contentOf_eq_filesystem_iff {printed held : String} :
    contentOf printed = .filesystem held ↔ lastValue "TYPE" printed = some held ∧ held ≠ "" := by
  have hgiven : (lastValue "TYPE" printed).filter (· ≠ "") = some held ↔
      lastValue "TYPE" printed = some held ∧ held ≠ "" := by
    simp [Option.filter_eq_some_iff]
  rw [← hgiven]
  dsimp only [contentOf]
  cases (lastValue "TYPE" printed).filter (· ≠ "") <;>
    cases (lastValue "PTTYPE" printed).filter (· ≠ "") <;>
    simp only [reduceCtorEq, DiskContent.filesystem.injEq, Option.some.injEq]

/-- What is printed counts as a blank disk only if no line says otherwise. -/
theorem blank_iff_showsNothing (htype : GivesAtMostOnce "TYPE" stdout)
    (hpttype : GivesAtMostOnce "PTTYPE" stdout) :
    contentOf (Utf8.decodeLossy stdout) = .blank ↔ ShowsNothing stdout := by
  rw [contentOf_eq_blank_iff]
  have hname : ∀ name ∈ ["TYPE", "PTTYPE"],
      (∀ c ∈ (name.toList ++ ['=']).head?, isBlank c = false) ∧ GivesAtMostOnce name stdout := by
    rintro name (_ | ⟨_, _ | ⟨_, ⟨⟩⟩⟩)
    · exact ⟨not_blank_of_type, htype⟩
    · exact ⟨not_blank_of_pttype, hpttype⟩
  refine forall_congr' fun name => forall_congr' fun hmem => ?_
  obtain ⟨hfirst, honce⟩ := hname name hmem
  simp only [lastValue_eq_some_iff hfirst honce]
  exact ⟨fun h line hline value hgives => h value ⟨line, hline, hgives⟩,
    fun h value ⟨line, hline, hgives⟩ => h line hline value hgives⟩

example : contentOf "SEC_TYPE=ext2\r\n PTTYPE=dos \r\nPART_ENTRY_TYPE=0x83\r\n" =
    .partitionTable "dos" := by decide +kernel

end Unix

end BlockVolume
