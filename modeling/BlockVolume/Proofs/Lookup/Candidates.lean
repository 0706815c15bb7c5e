import BlockVolume.Proofs.Text.Pieces
import BlockVolume.Volume.Lookup

namespace BlockVolume

namespace Path

theorem components_of_absolute {p : Path} (above rest : List Char)
    (h : p.text.toList = '/' :: above ++ '/' :: rest) :
    p.components = .root :: (Text.splitAt '/' above).filterMap Component.ofPiece? ++
      (Text.splitAt '/' rest).filterMap Component.ofPiece? := by
  have habs : p.isAbsolute = true := by simp [isAbsolute, h]
  rw [components, h, Text.splitAt_append, List.filterMap_append]
  simp [habs, Text.splitAt, Component.ofPiece?]

end Path

namespace Volume

theorem join_byIdDirectory {p : Path} (h : p.isAbsolute = false) :
    byIdDirectory.join p = ⟨"/dev/disk/by-id/" ++ p.text⟩ := by
  have hlast : byIdDirectory.text.toList.getLast? ≠ some '/' := by decide
  have hne : byIdDirectory.text ≠ "" := by decide
  rw [Path.join, if_neg (by simp [h]), if_neg (by simp [hlast, hne])]
  rfl

theorem isAbsolute_stem {stem : String} (h : stem ∈ linkStems) (serial : String) :
    Path.isAbsolute ⟨stem ++ serial⟩ = false := by
  simp only [linkStems, List.mem_cons, List.not_mem_nil, or_false] at h
  rcases h with rfl | rfl | rfl <;> simp [Path.isAbsolute]

theorem candidates_eq (serial : String) :
    candidates serial = linkStems.map fun stem => ⟨"/dev/disk/by-id/" ++ (stem ++ serial)⟩ :=
  List.map_congr_left fun _ h => join_byIdDirectory (isAbsolute_stem h serial)

theorem length_candidates (serial : String) : (candidates serial).length = 3 := rfl

theorem text_ne_empty_of_mem_candidates {serial : String} {p : Path} (h : p ∈ candidates serial) :
    p.text ≠ "" := by
  rw [candidates_eq, List.mem_map] at h
  obtain ⟨stem, -, rfl⟩ := h
  simp

theorem components_of_mem_candidates {serial : String} {p : Path} (h : p ∈ candidates serial) :
    p.components[1]? = some (.name "dev") := by
  rw [candidates_eq, List.mem_map] at h
  obtain ⟨stem, -, rfl⟩ := h
  rw [Path.components_of_absolute "dev".toList
    ("disk/by-id/".toList ++ (stem ++ serial).toList) (by simp)]
  rfl

theorem isAbsolute_of_no_slash {name : String} (h : '/' ∉ name.toList) :
    Path.isAbsolute ⟨name⟩ = false := by
  cases hs : name.toList with
  | nil => simp [Path.isAbsolute, hs]
  | cons c cs =>
      have hc : c ≠ '/' := by
        rintro rfl
        exact h (hs ▸ List.mem_cons_self)
      simp [Path.isAbsolute, hs, hc]

theorem components_scanFile {name : String} (h : '/' ∉ name.toList) :
    (scanFile name).components[1]? = some (.name "sys") := by
  have hlast : scsiHostDirectory.text.toList.getLast? = some '/' := by decide
  have hhost : scsiHostDirectory.join ⟨name⟩ = ⟨"/sys/class/scsi_host/" ++ name⟩ := by
    rw [Path.join, if_neg (by simp [isAbsolute_of_no_slash h]), if_pos (.inr hlast)]
    rfl
  have hscan : Path.isAbsolute ⟨"scan"⟩ = false := by decide
  obtain ⟨rest, hrest⟩ : ∃ rest,
      (scanFile name).text.toList = '/' :: "sys".toList ++ '/' :: rest := by
    rw [scanFile, hhost, Path.join, if_neg (by simp [hscan])]
    split
    · exact ⟨"class/scsi_host/".toList ++ name.toList ++ "scan".toList, by simp⟩
    · exact ⟨"class/scsi_host/".toList ++ name.toList ++ "/scan".toList, by simp⟩
  rw [Path.components_of_absolute _ _ hrest]
  rfl

theorem scanFile_ne_candidate {name serial : String} (hname : '/' ∉ name.toList) {p : Path}
    (hp : p ∈ candidates serial) : (scanFile name).components ≠ p.components := by
  intro h
  have hdev := components_of_mem_candidates hp
  rw [← h, components_scanFile hname] at hdev
  simp at hdev

theorem length_serial_le (id : String) : (serial id).length ≤ serialLength := by
  rw [serial, String.length_ofList]
  exact List.length_take_le _ _

/-- What the emulator puts before the serial of a SCSI disk. It is as long as a serial may be. -/
def emulatorMark : String := "0QEMU_QEMU_HARDDISK_"

theorem length_emulatorMark : emulatorMark.length = serialLength := by decide

theorem linkStems_of_begins : ∀ a ∈ linkStems, ∀ b ∈ linkStems,
    a.toList.isPrefixOf b.toList = true → b = a ∨ b = a ++ emulatorMark := by decide

theorem eq_emulatorMark_append {s t : String} (hs : s.length ≤ serialLength) :
    s = emulatorMark ++ t ↔ s = emulatorMark ∧ t = "" := by
  constructor
  · rintro rfl
    have hlength := String.length_append (s := emulatorMark) (t := t)
    have ht : t.length = 0 := by
      rw [length_emulatorMark] at hlength
      omega
    obtain rfl := String.length_eq_zero_iff.1 ht
    exact ⟨String.append_empty, rfl⟩
  · rintro ⟨rfl, rfl⟩
    exact String.append_empty.symm

theorem serials_of_begins {a b s t : String} (ha : a ∈ linkStems) (hb : b ∈ linkStems)
    (hs : s.length ≤ serialLength) (hbegins : a.toList <+: b.toList) (h : a ++ s = b ++ t) :
    s = t ∨ s = emulatorMark ∧ t = "" := by
  rcases linkStems_of_begins a ha b hb (List.isPrefixOf_iff_prefix.2 hbegins) with rfl | rfl
  · exact .inl ((String.append_right_inj b).1 h)
  · rw [String.append_assoc, String.append_right_inj] at h
    exact .inr ((eq_emulatorMark_append hs).1 h)

theorem serials_of_clash {a b s t : String} (ha : a ∈ linkStems) (hb : b ∈ linkStems)
    (hs : s.length ≤ serialLength) (ht : t.length ≤ serialLength) (h : a ++ s = b ++ t) :
    s = t ∨ s = "" ∧ t = emulatorMark ∨ t = "" ∧ s = emulatorMark := by
  have htexts : a.toList ++ s.toList = b.toList ++ t.toList := by
    rw [← String.toList_append, h, String.toList_append]
  have hbefore : a.toList <+: a.toList ++ s.toList := List.prefix_append _ _
  rw [htexts] at hbefore
  -- both stems begin the one text, so the shorter of them begins the other
  rcases List.prefix_or_prefix_of_prefix hbefore (List.prefix_append _ _) with hab | hba
  · exact (serials_of_begins ha hb hs hab h).imp_right fun hmark => .inr hmark.symm
  · exact (serials_of_begins hb ha ht hba h.symm).imp Eq.symm fun hmark => .inl hmark.symm

/-- Two volumes have a candidate in common if and only if they have one serial, or the one has none
and the other has the emulator's mark for its serial. -/
theorem candidates_overlap_iff (u v : String) :
    (∃ p ∈ candidates (serial u), ∃ q ∈ candidates (serial v), p.text = q.text) ↔
      serial u = serial v ∨
        serial u = "" ∧ serial v = "0QEMU_QEMU_HARDDISK_" ∨
        serial v = "" ∧ serial u = "0QEMU_QEMU_HARDDISK_" := by
  constructor
  · rintro ⟨p, hp, q, hq, htext⟩
    rw [candidates_eq, List.mem_map] at hp hq
    obtain ⟨a, ha, rfl⟩ := hp
    obtain ⟨b, hb, rfl⟩ := hq
    exact serials_of_clash ha hb (length_serial_le u) (length_serial_le v)
      ((String.append_right_inj _).1 htext)
  · rintro (h | ⟨hu, hv⟩ | ⟨hv, hu⟩)
    · rw [h]
      exact ⟨_, List.mem_cons_self, _, List.mem_cons_self, rfl⟩
    · rw [hu, hv]
      decide
    · rw [hu, hv]
      decide

example : (candidates (serial "--")).any
    (candidates (serial "0QEMU_QEMU_HARDDISK_7")).contains = true := by decide

end Volume

end BlockVolume
