import BlockVolume.MountTable
import BlockVolume.Proofs.MountTable.Escape
import BlockVolume.Proofs.Text.Lines
import BlockVolume.Proofs.Text.Pieces
import BlockVolume.Proofs.Text.Words
import Mathlib.Data.List.Forall2
import Mathlib.Tactic.TFAE

namespace BlockVolume

open Text MountTable

/-- A mount with all that the kernel writes about it. Every field before the hyphen that is written
as it is has to be a word, and none may be a lone hyphen. -/
structure KernelMount where
  id : {w : List Char // IsWord w ∧ w ≠ ['-']}
  parent : {w : List Char // IsWord w ∧ w ≠ ['-']}
  device : {w : List Char // IsWord w ∧ w ≠ ['-']}
  root : {w : List Char // IsWord w ∧ w ≠ ['-']}
  mountPoint : Path
  options : {w : List Char // IsWord w ∧ w ≠ ['-']}
  optional : List {w : List Char // IsWord w ∧ w ≠ ['-']}
  fstype : {w : List Char // IsWord w}
  source : String
  superOptions : String
  absolute : mountPoint.isAbsolute = true
  source_ne : source ≠ ""
  newline_not_mem : '\n' ∉ superOptions.toList

namespace KernelMount

def fields (m : KernelMount) : List (List Char) :=
  m.id.1 :: m.parent.1 :: m.device.1 :: m.root.1 :: escape m.mountPoint.text.toList ::
    m.options.1 :: m.optional.map Subtype.val

def line (m : KernelMount) : List Char :=
  spaced m.fields ++ " - ".toList ++
    spaced [m.fstype.1, escape m.source.toList, m.superOptions.toList]

def entry (m : KernelMount) : MountEntry :=
  ⟨m.mountPoint, String.ofList m.fstype.1, m.source⟩

def render (ms : List KernelMount) : String :=
  String.ofList (ms.flatMap fun m => m.line ++ ['\n'])

end KernelMount

/-- The only blanks in the text are those that the kernel escapes. -/
def BlanksEscaped (text : String) : Prop :=
  ∀ c ∈ text.toList, isBlank c = true → c = ' ' ∨ c = '\t' ∨ c = '\n'

instance (text : String) : Decidable (BlanksEscaped text) :=
  List.decidableBAll (fun c => isBlank c = true → c = ' ' ∨ c = '\t' ∨ c = '\n') text.toList

def MountEntry.Same (a b : MountEntry) : Prop :=
  a.mountPoint.same b.mountPoint = true ∧ a.fstype = b.fstype ∧ a.source = b.source

namespace Path

variable {p q : Path} {c : Char}

theorem mem_text_iff (hslash : c ≠ '/') (hdot : c ≠ '.') :
    c ∈ p.text.toList ↔ ∃ name, .name name ∈ p.components ∧ c ∈ name.toList := by
  constructor
  · intro hc
    obtain ⟨piece, hpiece, hmem⟩ := exists_mem_splitAt hc hslash
    have hname : Component.ofPiece? piece = some (.name (String.ofList piece)) := by
      rw [Component.ofPiece?, if_neg, if_neg]
      · rintro rfl
        simp [hdot] at hmem
      · rintro (rfl | rfl) <;> simp [hdot] at hmem
    refine ⟨String.ofList piece, ?_, by rwa [String.toList_ofList]⟩
    exact List.mem_append_right _ (List.mem_filterMap.2 ⟨piece, hpiece, hname⟩)
  · rintro ⟨name, hname, hc⟩
    rcases List.mem_append.1 hname with hstart | hname
    · -- what a path starts with is no name
      split at hstart
      · simp at hstart
      · split at hstart <;> simp at hstart
    · obtain ⟨piece, hpiece, hof⟩ := List.mem_filterMap.1 hname
      rw [Component.ofPiece?] at hof
      split at hof
      · cases hof
      · split at hof
        · cases hof
        · cases hof
          rw [String.toList_ofList] at hc
          exact mem_of_mem_splitAt hpiece hc

theorem mem_text_of_components_eq (h : p.components = q.components) (hslash : c ≠ '/')
    (hdot : c ≠ '.') (hc : c ∈ p.text.toList) : c ∈ q.text.toList := by
  rw [mem_text_iff hslash hdot] at hc ⊢
  rwa [← h]

end Path

namespace MountEntry

variable {line : List Char} {e : MountEntry}

theorem ofLine?_append_return (line : List Char) : ofLine? (line ++ ['\r']) = ofLine? line := by
  rw [ofLine?, ofLine?, splitFirst_concat (by decide) (by decide)]
  cases splitFirst " - ".toList line with
  | none => rfl
  | some cut =>
      obtain ⟨before, after⟩ := cut
      simp only [Option.map_some, Option.bind_eq_bind, Option.bind_some,
        words_concat_blank (b := '\r') rfl]

theorem ofLine?_eq_some (h : ofLine? line = some e) :
    ∃ place source, IsWord place ∧ IsWord source ∧
      e.mountPoint.text = String.ofList (unescape place) ∧
      e.source = String.ofList (unescape source) := by
  simp only [ofLine?, Option.bind_eq_bind, Option.bind_eq_some_iff] at h
  obtain ⟨⟨before, after⟩, -, place, hplace, fstype, -, source, hsource, h⟩ := h
  obtain rfl := Option.some.inj h
  exact ⟨place, source, isWord_of_mem_words (List.mem_of_getElem? hplace),
    isWord_of_mem_words (List.mem_of_getElem? hsource), rfl, rfl⟩

end MountEntry

theorem MountTable.parse_eq_splitOn (text : String) :
    parse text = (text.toList.splitOn '\n').filterMap MountEntry.ofLine? :=
  filterMap_lines rfl MountEntry.ofLine?_append_return text.toList

theorem blanksEscaped_unescape {w : List Char} (hw : IsWord w) :
    BlanksEscaped (String.ofList (unescape w)) := by
  intro c hc hblank
  rw [String.toList_ofList] at hc
  rcases mem_unescape hc with hc | hc
  · exact absurd hc (hw.not_mem hblank)
  · simp only [codes, List.map_cons, List.map_nil, List.mem_cons, List.not_mem_nil, or_false] at hc
    rcases hc with rfl | rfl | rfl | rfl
    · exact .inl rfl
    · exact .inr (.inl rfl)
    · exact .inr (.inr rfl)
    · cases hblank

/-- A field is a word, so what is read from it has no blanks but those that were escaped. -/
theorem blanksEscaped_of_mem_parse {text : String} {e : MountEntry} (h : e ∈ parse text) :
    BlanksEscaped e.mountPoint.text ∧ BlanksEscaped e.source := by
  obtain ⟨line, -, hline⟩ := List.mem_filterMap.1 h
  obtain ⟨place, source, hplace, hsource, htext, hname⟩ := MountEntry.ofLine?_eq_some hline
  rw [htext, hname]
  exact ⟨blanksEscaped_unescape hplace, blanksEscaped_unescape hsource⟩

/-- A field of a line has at least one character, so no mount that is read is without a place or a
source. -/
theorem texts_ne_of_mem_parse {text : String} {e : MountEntry} (h : e ∈ parse text) :
    e.mountPoint.text ≠ "" ∧ e.source ≠ "" := by
  obtain ⟨line, -, hline⟩ := List.mem_filterMap.1 h
  obtain ⟨place, source, hplace, hsource, htext, hname⟩ := MountEntry.ofLine?_eq_some hline
  rw [htext, hname]
  exact ⟨by simpa using unescape_ne_nil hplace.1, by simpa using unescape_ne_nil hsource.1⟩

theorem MountEntry.exists_same_of_mem {es fs : List MountEntry} {f : MountEntry}
    (h : List.Forall₂ Same es fs) (hf : f ∈ fs) : ∃ e ∈ es, e.Same f := by
  induction h with
  | nil => cases hf
  | cons hsame hrest ih =>
      rcases List.mem_cons.1 hf with rfl | hf
      · exact ⟨_, List.mem_cons_self, hsame⟩
      · obtain ⟨e, he, hef⟩ := ih hf
        exact ⟨e, .tail _ he, hef⟩

theorem MountEntry.Same.blanksEscaped {e f : MountEntry} (h : e.Same f)
    (he : BlanksEscaped e.mountPoint.text ∧ BlanksEscaped e.source) :
    BlanksEscaped f.mountPoint.text ∧ BlanksEscaped f.source := by
  obtain ⟨hplace, -, hsource⟩ := h
  rw [Path.same, beq_iff_eq] at hplace
  refine ⟨fun c hc hblank => ?_, hsource ▸ he.2⟩
  -- a blank is neither a slash nor a dot, so it belongs to a step
  have hslash : c ≠ '/' := by
    rintro rfl
    cases hblank
  have hdot : c ≠ '.' := by
    rintro rfl
    cases hblank
  exact he.1 c (Path.mem_text_of_components_eq hplace.symm hslash hdot hc) hblank

theorem isWord_escape {text : String} (hne : text ≠ "") (h : BlanksEscaped text) :
    IsWord (escape text.toList) := by
  refine ⟨escape_ne_nil (by simpa using hne), fun c hc => ?_⟩
  rcases mem_escape hc with ⟨code, hcode, hc⟩ | ⟨hc, hplain⟩
  · have hdigits : ∀ code ∈ codes, ∀ c ∈ code.1, isBlank c = false := by
        simp [codes, isBlank]
    exact hdigits code hcode c hc
  · rw [Bool.eq_false_iff]
    intro hblank
    simp only [codes, List.forall_mem_cons] at hplain
    rcases h c hc hblank with hc | hc | hc
    · exact hplain.1 hc
    · exact hplain.2.1 hc
    · exact hplain.2.2.1 hc

theorem newline_not_mem_escape (s : List Char) : '\n' ∉ escape s := by
  intro h
  rcases mem_escape h with h | ⟨-, hplain⟩
  · revert h
    decide
  · exact hplain ("\\012".toList, '\n') (by decide) rfl

namespace KernelMount

variable (m : KernelMount)

theorem newline_not_mem_spaced {ws : List (List Char)} (h : ∀ w ∈ ws, '\n' ∉ w) :
    '\n' ∉ spaced ws := by
  fun_induction spaced ws with
  | case1 => simp
  | case2 w => exact h w List.mem_cons_self
  | case3 w v ws ih =>
      have hw : '\n' ∉ w := h w List.mem_cons_self
      have hrest : '\n' ∉ spaced (v :: ws) := ih fun u hu => h u (.tail w hu)
      simp [hw, hrest]

theorem newline_not_mem_line : '\n' ∉ m.line := by
  have hfields : '\n' ∉ spaced m.fields := by
    apply newline_not_mem_spaced
    have hword (w : {w : List Char // IsWord w ∧ w ≠ ['-']}) : '\n' ∉ w.1 := w.2.1.not_mem rfl
    simp only [fields, List.forall_mem_cons, List.forall_mem_map]
    exact ⟨hword _, hword _, hword _, hword _, newline_not_mem_escape _, hword _,
      fun w _ => hword w⟩
  have hdescribed :
      '\n' ∉ spaced [m.fstype.1, escape m.source.toList, m.superOptions.toList] := by
    apply newline_not_mem_spaced
    simp only [List.forall_mem_cons]
    exact ⟨m.fstype.2.not_mem rfl, newline_not_mem_escape _, m.newline_not_mem, nofun⟩
  simp [line, hfields, hdescribed]

theorem splitOn_render (ms : List KernelMount) :
    (render ms).toList.splitOn '\n' = ms.map line ++ [[]] := by
  rw [render, String.toList_ofList]
  induction ms with
  | nil => rfl
  | cons m ms ih =>
      rw [List.flatMap_cons, List.append_assoc, List.singleton_append,
        List.splitOn_append_cons_self_of_not_mem m.newline_not_mem_line, ih]
      rfl

theorem parse_render_eq_filterMap (ms : List KernelMount) :
    parse (render ms) = ms.filterMap fun m => MountEntry.ofLine? m.line := by
  rw [parse_eq_splitOn, splitOn_render, List.filterMap_append, List.filterMap_map]
  exact List.append_nil _

variable {m}

theorem ofLine?_line (hplace : BlanksEscaped m.mountPoint.text) (hsource : BlanksEscaped m.source) :
    MountEntry.ofLine? m.line = some m.entry := by
  have habsolute := m.absolute
  have hne : m.mountPoint.text ≠ "" := by
    intro h
    simp [Path.isAbsolute, h] at habsolute
  have hhyphen : escape m.mountPoint.text.toList ≠ ['-'] := by
    intro h
    have htext : m.mountPoint.text.toList = ['-'] := by
      rw [← unescape_escape m.mountPoint.text.toList, h]
      rfl
    simp [Path.isAbsolute, htext] at habsolute
  have hfields : ∀ w ∈ m.fields, IsWord w ∧ w ≠ ['-'] := by
    simp only [fields, List.forall_mem_cons, List.forall_mem_map]
    exact ⟨m.id.2, m.parent.2, m.device.2, m.root.2, ⟨isWord_escape hne hplace, hhyphen⟩,
      m.options.2, fun w _ => w.2⟩
  have hcut : splitFirst " - ".toList m.line = some (spaced m.fields, _) :=
    splitFirst_spaced (List.cons_ne_nil _ _) hfields _
  have hbefore : (words (spaced m.fields))[4]? = some (escape m.mountPoint.text.toList) := by
    rw [words_spaced fun w hw => (hfields w hw).1]
    rfl
  have hafter : words (spaced [m.fstype.1, escape m.source.toList, m.superOptions.toList]) =
      m.fstype.1 :: escape m.source.toList :: words m.superOptions.toList := by
    rw [spaced, words_append_blank m.fstype.2 rfl, spaced,
      words_append_blank (isWord_escape m.source_ne hsource) rfl, spaced]
  rw [MountEntry.ofLine?, hcut]
  simp [hbefore, hafter, unescape_escape, entry]

/-- Reading a table that the kernel wrote gives back its mounts, one for one and in order, if and
only if all blanks in their places and sources were escaped. It makes no difference to this whether
places are compared by their texts or by their steps. -/
theorem parse_render (ms : List KernelMount) :
    List.TFAE [parse (render ms) = ms.map entry,
      List.Forall₂ MountEntry.Same (parse (render ms)) (ms.map entry),
      ∀ m ∈ ms, BlanksEscaped m.mountPoint.text ∧ BlanksEscaped m.source] := by
  tfae_have 1 → 2 := by
    intro h
    rw [h, List.forall₂_same]
    exact fun e _ => ⟨beq_self_eq_true _, rfl, rfl⟩
  tfae_have 2 → 3 := by
    intro h m hm
    obtain ⟨e, he, hsame⟩ := MountEntry.exists_same_of_mem h (List.mem_map_of_mem hm)
    exact hsame.blanksEscaped (blanksEscaped_of_mem_parse he)
  tfae_have 3 → 1 := by
    intro h
    rw [parse_render_eq_filterMap, ← List.filterMap_eq_map]
    exact List.filterMap_congr fun m hm => ofLine?_line (h m hm).1 (h m hm).2
  tfae_finish

def spacedMount : KernelMount where
  id := ⟨"36".toList, by decide⟩
  parent := ⟨"28".toList, by decide⟩
  device := ⟨"8:16".toList, by decide⟩
  root := ⟨"/".toList, by decide⟩
  mountPoint := ⟨"/mnt/my disk"⟩
  options := ⟨"rw,relatime".toList, by decide⟩
  optional := [⟨"shared:1".toList, by decide⟩, ⟨"master:2".toList, by decide⟩]
  fstype := ⟨"ext4".toList, by decide⟩
  source := "/dev/sdb"
  superOptions := "rw"
  absolute := by decide
  source_ne := by decide
  newline_not_mem := by decide

def unescapedMount : KernelMount :=
  { spacedMount with mountPoint := ⟨"/mnt/my\u00a0disk"⟩, absolute := by decide }

theorem parse_render_spaced :
    render [spacedMount] =
        "36 28 8:16 / /mnt/my\\040disk rw,relatime shared:1 master:2 - ext4 /dev/sdb rw\n" ∧
      parse (render [spacedMount]) = [⟨⟨"/mnt/my disk"⟩, "ext4", "/dev/sdb"⟩] ∧
      parse (render [unescapedMount]) ≠ [⟨⟨"/mnt/my\u00a0disk"⟩, "ext4", "/dev/sdb"⟩] := by
  refine ⟨by decide +kernel, ?_, fun h => ?_⟩
  · refine ((parse_render [spacedMount]).out 0 2).2 fun m hm => ?_
    obtain rfl := List.mem_singleton.1 hm
    decide
  · have hescaped := ((parse_render [unescapedMount]).out 0 2).1 h
    exact absurd (hescaped _ List.mem_cons_self).1 (by decide)

end KernelMount

end BlockVolume
