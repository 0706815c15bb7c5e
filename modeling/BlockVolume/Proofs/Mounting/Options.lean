import BlockVolume.Disk
import BlockVolume.Proofs.Text.Pieces

namespace BlockVolume

namespace MountFlags

theorem contains_readOnly (flags : MountFlags) :
    flags.contains readOnly = flags.bits.testBit 0 := by
  simp only [contains, readOnly, Nat.and_one_is_mod, Nat.testBit_zero]
  rfl

theorem testBit_foldl_union (more : List MountFlags) (flags : MountFlags) (i : Nat) :
    (more.foldl union flags).bits.testBit i =
      (flags.bits.testBit i || more.any fun f => f.bits.testBit i) := by
  induction more generalizing flags with
  | nil => simp
  | cons f more ih => simp [ih, union, Bool.or_assoc]

theorem eq_of_testBit {f g : MountFlags} (h : ∀ i, f.bits.testBit i = g.bits.testBit i) :
    f = g := by
  obtain ⟨m⟩ := f
  obtain ⟨n⟩ := g
  exact congrArg mk (Nat.eq_of_testBit_eq h)

end MountFlags

namespace MountOptions

variable {a b : MountOptions} {word : String}

theorem testBit_flags (options : MountOptions) (i : Nat) : options.flags.bits.testBit i =
    options.words.any fun word => (flagsOf? word).any fun flags => flags.bits.testBit i := by
  rw [flags, MountFlags.testBit_foldl_union, MountFlags.none, Nat.zero_testBit, Bool.false_or,
    List.any_filterMap]
  rfl

theorem readOnly_of_flagsOf? (word : String) :
    ((flagsOf? word).any fun flags => flags.bits.testBit 0) = (word == "ro") := by
  by_cases hword : word = "ro"
  · rw [hword]
    rfl
  · rw [beq_eq_false_iff_ne.2 hword]
    unfold flagsOf?
    split
    all_goals first | exact absurd rfl hword | rfl

theorem flags_contains_readOnly (options : MountOptions) :
    options.flags.contains MountFlags.readOnly = options.isReadOnly := by
  rw [MountFlags.contains_readOnly, testBit_flags, isReadOnly, List.contains_eq_any_beq]
  simp only [readOnly_of_flagsOf?, Bool.beq_comm]

def append (a b : MountOptions) : MountOptions := ⟨a.words ++ b.words⟩

theorem flags_append (a b : MountOptions) : (a.append b).flags = a.flags.union b.flags := by
  refine MountFlags.eq_of_testBit fun i => ?_
  rw [MountFlags.union, Nat.testBit_or, testBit_flags, testBit_flags, testBit_flags, append,
    List.any_append]

theorem flags_congr (h : ∀ word, word ∈ a.words ↔ word ∈ b.words) : a.flags = b.flags := by
  refine MountFlags.eq_of_testBit fun i => ?_
  rw [testBit_flags, testBit_flags, Bool.eq_iff_iff]
  simp only [List.any_eq_true, h]

/-- The options that the kernel takes: those that set flags, and two that set none. -/
def recognised : List String :=
  ["ro", "bind", "rbind", "noatime", "nodiratime", "nodev", "noexec", "nosuid", "sync", "rw",
    "defaults"]

theorem flagsOf?_eq_none_iff : flagsOf? word = none ↔ word ∉ recognised := by
  constructor
  · intro h hword
    simp only [recognised, List.mem_cons, List.not_mem_nil, or_false] at hword
    rcases hword with rfl | rfl | rfl | rfl | rfl | rfl | rfl | rfl | rfl | rfl | rfl
    all_goals cases h
  · intro h
    unfold flagsOf?
    split
    all_goals first | rfl | exact absurd (by decide) h

theorem unrecognised_eq (options : MountOptions) :
    options.unrecognised = options.words.filter (· ∉ recognised) := by
  refine List.filter_congr fun word _ => ?_
  rw [Bool.eq_iff_iff, Option.isNone_iff_eq_none, flagsOf?_eq_none_iff, decide_eq_true_iff]

def joined : List String → Option String
  | [] => none
  | texts => some (",".intercalate texts)

theorem joined_of_ne_nil {texts : List String} (h : texts ≠ []) :
    joined texts = some (",".intercalate texts) := by
  cases texts with
  | nil => exact absurd rfl h
  | cons => rfl

theorem joined_eq_none_iff {texts : List String} : joined texts = none ↔ texts = [] := by
  cases texts <;> simp [joined]

theorem joined_append (before after : List String) :
    joined (before ++ after) = joined ([joined before, joined after].filterMap id) := by
  by_cases hb : before = []
  · by_cases ha : after = []
    · rw [hb, ha]
      rfl
    · rw [hb, List.nil_append, joined_of_ne_nil ha]
      simp [joined]
  · by_cases ha : after = []
    · rw [ha, List.append_nil, joined_of_ne_nil hb]
      simp [joined]
    · have hne : before ++ after ≠ [] := by simp [hb]
      rw [joined_of_ne_nil hb, joined_of_ne_nil ha, joined_of_ne_nil hne,
        String.intercalate_append_of_ne_nil hb ha]
      simp [joined]

theorem data_eq (options : MountOptions) : options.data = joined options.unrecognised := by
  rw [data]
  cases options.unrecognised <;> rfl

theorem unrecognised_append (a b : MountOptions) :
    (a.append b).unrecognised = a.unrecognised ++ b.unrecognised :=
  List.filter_append ..

def StandsIn (word text : String) : Prop :=
  ∃ before after : String, text = before ++ word ++ after ∧
    (before = "" ∨ ∃ rest, before = rest ++ ",") ∧ (after = "" ∨ ∃ rest, after = "," ++ rest)

theorem standsIn_intercalate {texts : List String} (h : word ∈ texts) :
    StandsIn word (",".intercalate texts) := by
  obtain ⟨before, after, rfl⟩ := List.append_of_mem h
  have htail : ∃ tail : String, (tail = "" ∨ ∃ rest, tail = "," ++ rest) ∧
      ",".intercalate (word :: after) = word ++ tail := by
    by_cases ha : after = []
    · exact ⟨"", .inl rfl, by simp [ha]⟩
    · refine ⟨"," ++ ",".intercalate after, .inr ⟨_, rfl⟩, ?_⟩
      rw [String.intercalate_cons_of_ne_nil ha, String.append_assoc]
  obtain ⟨tail, hend, htail⟩ := htail
  by_cases hb : before = []
  · refine ⟨"", tail, ?_, .inl rfl, hend⟩
    rw [hb, List.nil_append, htail, String.empty_append]
  · refine ⟨",".intercalate before ++ ",", tail, ?_, .inr ⟨_, rfl⟩, hend⟩
    simp only [String.intercalate_append_of_ne_nil hb (List.cons_ne_nil _ _), htail,
      String.append_assoc]

def dataWords (options : MountOptions) : List String :=
  match options.data with
  | none => []
  | some text => (Text.splitAt ',' text.toList).map String.ofList

theorem dataWords_eq (h : ∀ word ∈ a.words, ',' ∉ word.toList) :
    a.dataWords = a.unrecognised := by
  rw [dataWords, data_eq]
  by_cases ha : a.unrecognised = []
  · rw [ha]
    rfl
  · have hcomma : ∀ cs ∈ a.unrecognised.map String.toList, ',' ∉ cs := by
      intro cs hcs
      obtain ⟨word, hword, rfl⟩ := List.mem_map.1 hcs
      exact h word (List.mem_filter.1 hword).1
    have hsplit := Text.splitAt_intercalate (by simpa using ha) hcomma
    have hlist : (",".intercalate a.unrecognised).toList =
        [','].intercalate (a.unrecognised.map String.toList) := String.toList_intercalate
    rw [joined_of_ne_nil ha]
    dsimp only
    rw [hlist, hsplit, List.map_map]
    simp [Function.comp_def]

/-- No option is lost. The flags of options after others are the flags of both, and no order and no
repetition changes them; the data is the data of both with a comma between, and there is none only
if there is none of either. The data holds every option that is not recognised, and if no option has
a comma in it, the pieces of the data are exactly these options in their order. -/
theorem append_keeps_options (a b : MountOptions) :
    (a.append b).flags = a.flags.union b.flags ∧
      (∀ c : MountOptions, (∀ word, word ∈ c.words ↔ word ∈ a.words) → c.flags = a.flags) ∧
      (a.append b).data = joined ([a.data, b.data].filterMap id) ∧
      ((a.append b).data = none ↔ a.data = none ∧ b.data = none) ∧
      (∀ word ∈ a.words, word ∉ recognised → ∃ text, a.data = some text ∧ StandsIn word text) ∧
      ((∀ word ∈ a.words, ',' ∉ word.toList) →
        a.dataWords = a.words.filter (· ∉ recognised)) := by
  refine ⟨flags_append a b, fun c => flags_congr, ?_, ?_, fun word hword hother => ?_, fun h => ?_⟩
  · rw [data_eq, data_eq, data_eq, unrecognised_append, joined_append]
  · simp only [data_eq, unrecognised_append, joined_eq_none_iff, List.append_eq_nil_iff]
  · have hmem : word ∈ a.unrecognised := by
      rw [unrecognised_eq]
      exact List.mem_filter.2 ⟨hword, decide_eq_true hother⟩
    refine ⟨_, ?_, standsIn_intercalate hmem⟩
    rw [data_eq, joined_of_ne_nil (List.ne_nil_of_mem hmem)]
  · rw [dataWords_eq h, unrecognised_eq]

theorem append_keeps_options_repeated :
    let a : MountOptions := ⟨["rbind", "", "errors=remount-ro", "ro", "discard"]⟩
    let b : MountOptions := ⟨["ro", "rw", "discard"]⟩
    (a.append b).flags = ⟨4096 + 16384 + 1⟩ ∧
      (a.append b).data = some ",errors=remount-ro,discard,discard" ∧
      MountOptions.flags ⟨["ro", "rbind", "ro", "errors=remount-ro", "discard", ""]⟩ = a.flags ∧
      (∃ text, a.data = some text ∧ StandsIn "errors=remount-ro" text) ∧
      a.dataWords = ["", "errors=remount-ro", "discard"] := by
  intro a b
  obtain ⟨hflags, hsame, hdata, -, hin, hwords⟩ := append_keeps_options a b
  refine ⟨hflags.trans (by decide), hdata.trans (by decide +kernel), hsame _ fun word => ?_,
    hin _ (by simp [a]) (by decide), (hwords ?_).trans (by decide)⟩
  · simp only [a, List.mem_cons, List.not_mem_nil, or_false]
    grind
  · simp [a]

end MountOptions

end BlockVolume
