import SimApprove.Text.Utf8

/-!
# Reading what was written

The bytes of a text read as that text, without a fault (`decode?_toUTF8`), and no other
bytes do (`decode?_eq_some_iff`): a reader that meets no fault has gone from one whole
character to the next.
-/

namespace SimApprove.Text.Utf8

theorem toList_loop (bytes : ByteArray) (i : Nat) (taken : List UInt8) :
    ByteArray.toList.loop bytes i taken = taken.reverse ++ bytes.data.toList.drop i := by
  fun_induction ByteArray.toList.loop bytes i taken with
  | case1 i taken h ih =>
    have hi : i < bytes.data.toList.length := by simpa using h
    rw [ih, List.drop_eq_getElem_cons hi]
    simp [ByteArray.get!, h]
  | case2 i taken h =>
    rw [List.drop_eq_nil_of_le (by simpa using Nat.le_of_not_lt h)]
    simp

theorem toList_toUTF8 (s : String) :
    s.toUTF8.toList = s.toList.flatMap String.utf8EncodeChar := by
  have hs : s.toUTF8 = (s.toList.flatMap String.utf8EncodeChar).toByteArray := by
    conv => lhs; rw [← String.ofList_toList (s := s)]
    rw [String.toUTF8_eq_toByteArray, String.toByteArray_ofList]
    rfl
  rw [hs, ByteArray.toList, toList_loop, List.toList_data_toByteArray]
  rfl

-- ---------------------------------------------------------------------------
-- One byte
-- ---------------------------------------------------------------------------

theorem decodeFrom_cons {progress next : Progress} {n : Nat} {done : List (Option Char)}
    (hn : n < 256) (h : step progress n = (done, next)) (rest : List UInt8) :
    decodeFrom progress (UInt8.ofNat n :: rest) = done ++ decodeFrom next rest := by
  have hb : (UInt8.ofNat n).toNat = n := by
    rw [UInt8.toNat_ofNat']
    exact Nat.mod_eq_of_lt hn
  cases progress <;> simp only [decodeFrom, hb, h]

theorem step_last {b low high sofar : Nat} (hl : low ≤ b) (hh : b ≤ high) :
    step (.within 0 low high sofar) b = ([some (Char.ofNat (sofar * 64 + b % 64))], .start) := by
  simp only [step, if_pos (And.intro hl hh)]

theorem step_more {b more low high sofar : Nat} (hl : low ≤ b) (hh : b ≤ high) :
    step (.within (more + 1) low high sofar) b =
      ([], .within more 0x80 0xBF (sofar * 64 + b % 64)) := by
  simp only [step, if_pos (And.intro hl hh)]

theorem lead_two {b : Nat} (h : 0xC2 ≤ b ∧ b ≤ 0xDF) :
    lead b = ([], .within 0 0x80 0xBF (b - 0xC0)) := by
  rw [lead, if_neg (by omega), if_pos h]

theorem lead_three {b : Nat} (h : 0xE1 ≤ b ∧ b ≤ 0xEF) (hn : b ≠ 0xED) :
    lead b = ([], .within 1 0x80 0xBF (b - 0xE0)) := by
  rw [lead, if_neg (by omega), if_neg (by omega), if_neg (by omega), if_neg hn, if_pos h]

theorem lead_four {b : Nat} (h : 0xF1 ≤ b ∧ b ≤ 0xF3) :
    lead b = ([], .within 2 0x80 0xBF (b - 0xF0)) := by
  rw [lead, if_neg (by omega), if_neg (by omega), if_neg (by omega), if_neg (by omega),
    if_neg (by omega), if_neg (by omega), if_pos h]

-- ---------------------------------------------------------------------------
-- One character
-- ---------------------------------------------------------------------------

variable {v : Nat} (rest : List UInt8)

theorem decodeFrom_two (hl : 0x7f < v) (hh : v ≤ 0x7ff) :
    decodeFrom .start (UInt8.ofNat (v / 64 % 32 + 0xc0) :: UInt8.ofNat (v % 64 + 0x80) :: rest) =
      some (Char.ofNat v) :: decodeFrom .start rest := by
  have hlead : step .start (v / 64 % 32 + 0xc0) = _ := lead_two (by omega)
  rw [decodeFrom_cons (by omega) hlead,
    decodeFrom_cons (by omega) (step_last (by omega) (by omega))]
  have : (v / 64 % 32 + 0xc0 - 0xc0) * 64 + (v % 64 + 0x80) % 64 = v := by omega
  rw [this]
  rfl

/-- The first of three bytes sets the range of the second, which leaves out short
forms and surrogates. -/
theorem exists_lead_three (hl : 0x7ff < v) (hh : v ≤ 0xffff) (hv : v < 0xd800 ∨ 0xdfff < v) :
    ∃ low high, lead (v / 4096 % 16 + 0xe0) = ([], .within 1 low high (v / 4096)) ∧
      low ≤ v / 64 % 64 + 0x80 ∧ v / 64 % 64 + 0x80 ≤ high := by
  by_cases h0 : v / 4096 = 0
  · rw [h0]
    exact ⟨0xA0, 0xBF, rfl, by omega, by omega⟩
  by_cases hD : v / 4096 = 13
  · rw [hD]
    exact ⟨0x80, 0x9F, rfl, by omega, by omega⟩
  · refine ⟨0x80, 0xBF, ?_, by omega, by omega⟩
    have hs : v / 4096 % 16 + 0xe0 - 0xe0 = v / 4096 := by omega
    rw [lead_three (by omega) (by omega), hs]

theorem decodeFrom_three (hl : 0x7ff < v) (hh : v ≤ 0xffff) (hv : v < 0xd800 ∨ 0xdfff < v) :
    decodeFrom .start (UInt8.ofNat (v / 4096 % 16 + 0xe0) ::
        UInt8.ofNat (v / 64 % 64 + 0x80) :: UInt8.ofNat (v % 64 + 0x80) :: rest) =
      some (Char.ofNat v) :: decodeFrom .start rest := by
  obtain ⟨low, high, hlead, hlow, hhigh⟩ := exists_lead_three hl hh hv
  have hlead : step .start (v / 4096 % 16 + 0xe0) = _ := hlead
  rw [decodeFrom_cons (by omega) hlead, decodeFrom_cons (by omega) (step_more hlow hhigh),
    decodeFrom_cons (by omega) (step_last (by omega) (by omega))]
  have : (v / 4096 * 64 + (v / 64 % 64 + 0x80) % 64) * 64 + (v % 64 + 0x80) % 64 = v := by omega
  rw [this]
  rfl

theorem exists_lead_four (hl : 0xffff < v) (hh : v < 0x110000) :
    ∃ low high, lead (v / 262144 % 8 + 0xf0) = ([], .within 2 low high (v / 262144)) ∧
      low ≤ v / 4096 % 64 + 0x80 ∧ v / 4096 % 64 + 0x80 ≤ high := by
  by_cases h0 : v / 262144 = 0
  · rw [h0]
    exact ⟨0x90, 0xBF, rfl, by omega, by omega⟩
  by_cases h4 : v / 262144 = 4
  · rw [h4]
    exact ⟨0x80, 0x8F, rfl, by omega, by omega⟩
  · refine ⟨0x80, 0xBF, ?_, by omega, by omega⟩
    have hs : v / 262144 % 8 + 0xf0 - 0xf0 = v / 262144 := by omega
    rw [lead_four (by omega), hs]

theorem decodeFrom_four (hl : 0xffff < v) (hh : v < 0x110000) :
    decodeFrom .start (UInt8.ofNat (v / 262144 % 8 + 0xf0) ::
        UInt8.ofNat (v / 4096 % 64 + 0x80) :: UInt8.ofNat (v / 64 % 64 + 0x80) ::
        UInt8.ofNat (v % 64 + 0x80) :: rest) =
      some (Char.ofNat v) :: decodeFrom .start rest := by
  obtain ⟨low, high, hlead, hlow, hhigh⟩ := exists_lead_four hl hh
  have hlead : step .start (v / 262144 % 8 + 0xf0) = _ := hlead
  rw [decodeFrom_cons (by omega) hlead, decodeFrom_cons (by omega) (step_more hlow hhigh),
    decodeFrom_cons (by omega) (step_more (by omega) (by omega)),
    decodeFrom_cons (by omega) (step_last (by omega) (by omega))]
  have : ((v / 262144 * 64 + (v / 4096 % 64 + 0x80) % 64) * 64 +
      (v / 64 % 64 + 0x80) % 64) * 64 + (v % 64 + 0x80) % 64 = v := by omega
  rw [this]
  rfl

theorem decodeFrom_encodeChar (c : Char) :
    decodeFrom .start (String.utf8EncodeChar c ++ rest) = some c :: decodeFrom .start rest := by
  have hv : c.val.toNat < 0xd800 ∨ (0xdfff < c.val.toNat ∧ c.val.toNat < 0x110000) := c.valid
  have hc : Char.ofNat c.val.toNat = c := Char.ofNat_toNat c
  have key : decodeFrom .start (String.utf8EncodeChar c ++ rest) =
      some (Char.ofNat c.val.toNat) :: decodeFrom .start rest := by
    unfold String.utf8EncodeChar
    simp only
    generalize c.val.toNat = v at hv
    split
    · rename_i h
      have hlead : step .start v = ([some (Char.ofNat v)], .start) := if_pos h
      rw [List.cons_append, decodeFrom_cons (by omega) hlead]
      rfl
    split
    · exact decodeFrom_two rest (by omega) (by omega)
    split
    · exact decodeFrom_three rest (by omega) (by omega) (by omega)
    · exact decodeFrom_four rest (by omega) (by omega)
  rw [key, hc]

theorem decodeFrom_flatMap (cs : List Char) :
    decodeFrom .start (cs.flatMap String.utf8EncodeChar ++ rest) =
      cs.map some ++ decodeFrom .start rest := by
  induction cs with
  | nil => rfl
  | cons c cs ih =>
    rw [List.flatMap_cons, List.append_assoc, decodeFrom_encodeChar, ih, List.map_cons,
      List.cons_append]

theorem decode_toUTF8 (s : String) : decode s.toUTF8.toList = s.toList.map some := by
  have h := decodeFrom_flatMap [] s.toList
  rwa [List.append_nil, ← toList_toUTF8, decodeFrom, List.append_nil] at h

/-- What was written is read back, whatever bytes come after it. -/
theorem decodeLossy_append (s : String) :
    decodeLossy (s.toUTF8.toList ++ rest) = s ++ decodeLossy rest := by
  rw [← String.toList_inj, decodeLossy, decode, toList_toUTF8, decodeFrom_flatMap]
  simp [decodeLossy, decode, Function.comp_def]

theorem decodeLossy_toUTF8 (s : String) : decodeLossy s.toUTF8.toList = s := by
  rw [← List.append_nil s.toUTF8.toList, decodeLossy_append]
  exact String.append_empty

theorem decode?_toUTF8 (s : String) : decode? s.toUTF8.toList = some s := by
  have hm : ∀ cs : List Char, (cs.map some).mapM id = some cs := by
    intro cs
    induction cs with
    | nil => rfl
    | cons c cs ih => simp [ih]
  rw [decode?, decode_toUTF8, hm, Option.map_some, String.ofList_toList]

-- ---------------------------------------------------------------------------
-- Bytes without a fault
-- ---------------------------------------------------------------------------

theorem toNat_val_ofNat {v : Nat} (h : v.isValidChar) : (Char.ofNat v).val.toNat = v := by
  rw [Char.ofNat, dif_pos h]
  rfl

theorem exists_next {more low high sofar : Nat} {bytes : List UInt8}
    (h : none ∉ decodeFrom (.within more low high sofar) bytes) :
    ∃ b rest, bytes = b :: rest ∧ low ≤ b.toNat ∧ b.toNat ≤ high ∧
      none ∉ decodeFrom (step (.within more low high sofar) b.toNat).2 rest := by
  cases bytes with
  | nil => exact absurd List.mem_cons_self h
  | cons b rest =>
    simp only [decodeFrom, List.mem_append, not_or] at h
    by_cases hb : low ≤ b.toNat ∧ b.toNat ≤ high
    · exact ⟨b, rest, rfl, hb.1, hb.2, h.2⟩
    · have hf : none ∈ (step (.within more low high sofar) b.toNat).1 := by
        simp [step, hb]
      exact absurd hf h.1

theorem exists_last {low high sofar : Nat} {bytes : List UInt8}
    (h : none ∉ decodeFrom (.within 0 low high sofar) bytes) :
    ∃ b rest, bytes = b :: rest ∧ low ≤ b.toNat ∧ b.toNat ≤ high := by
  obtain ⟨b, rest, hb, hl, hh, -⟩ := exists_next h
  exact ⟨b, rest, hb, hl, hh⟩

theorem exists_more {more low high sofar : Nat} {bytes : List UInt8}
    (h : none ∉ decodeFrom (.within (more + 1) low high sofar) bytes) :
    ∃ b rest, bytes = b :: rest ∧ low ≤ b.toNat ∧ b.toNat ≤ high ∧
      none ∉ decodeFrom (.within more 0x80 0xBF (sofar * 64 + b.toNat % 64)) rest := by
  obtain ⟨b, rest, hb, hl, hh, h⟩ := exists_next h
  rw [step_more hl hh] at h
  exact ⟨b, rest, hb, hl, hh, h⟩

section
variable {a b c d : UInt8} (tail : List UInt8)

theorem ofNat_of_toNat_eq {n : Nat} (h : b.toNat = n) : UInt8.ofNat n = b := by
  rw [← h, UInt8.ofNat_toNat]

theorem exists_char_two (v : Nat) (hl : 0x7f < v) (hh : v ≤ 0x7ff)
    (ha : a.toNat = v / 64 % 32 + 0xc0) (hb : b.toNat = v % 64 + 0x80) :
    ∃ ch, a :: b :: tail = String.utf8EncodeChar ch ++ tail := by
  refine ⟨Char.ofNat v, ?_⟩
  have hv := toNat_val_ofNat (v := v) (by unfold Nat.isValidChar; omega)
  simp only [String.utf8EncodeChar, hv]
  rw [if_neg (by omega), if_pos hh, ofNat_of_toNat_eq ha, ofNat_of_toNat_eq hb]
  rfl

theorem exists_char_three (v : Nat) (hl : 0x7ff < v) (hh : v ≤ 0xffff)
    (hs : v < 0xd800 ∨ 0xdfff < v) (ha : a.toNat = v / 4096 % 16 + 0xe0)
    (hb : b.toNat = v / 64 % 64 + 0x80) (hc : c.toNat = v % 64 + 0x80) :
    ∃ ch, a :: b :: c :: tail = String.utf8EncodeChar ch ++ tail := by
  refine ⟨Char.ofNat v, ?_⟩
  have hv := toNat_val_ofNat (v := v) (by unfold Nat.isValidChar; omega)
  simp only [String.utf8EncodeChar, hv]
  rw [if_neg (by omega), if_neg (by omega), if_pos hh, ofNat_of_toNat_eq ha,
    ofNat_of_toNat_eq hb, ofNat_of_toNat_eq hc]
  rfl

theorem exists_char_four (v : Nat) (hl : 0xffff < v) (hh : v < 0x110000)
    (ha : a.toNat = v / 262144 % 8 + 0xf0) (hb : b.toNat = v / 4096 % 64 + 0x80)
    (hc : c.toNat = v / 64 % 64 + 0x80) (hd : d.toNat = v % 64 + 0x80) :
    ∃ ch, a :: b :: c :: d :: tail = String.utf8EncodeChar ch ++ tail := by
  refine ⟨Char.ofNat v, ?_⟩
  have hv := toNat_val_ofNat (v := v) (by unfold Nat.isValidChar; omega)
  simp only [String.utf8EncodeChar, hv]
  rw [if_neg (by omega), if_neg (by omega), if_neg (by omega), ofNat_of_toNat_eq ha,
    ofNat_of_toNat_eq hb, ofNat_of_toNat_eq hc, ofNat_of_toNat_eq hd]
  rfl

end

theorem exists_encodeChar_within_one {a : UInt8} {low high : Nat} {rest : List UInt8}
    (h : none ∉ decodeFrom (.within 1 low high (a.toNat - 0xe0)) rest)
    (ha : 0xe0 ≤ a.toNat ∧ a.toNat ≤ 0xef) (hl : 0x80 ≤ low) (hh : high ≤ 0xbf)
    (h0 : a.toNat = 0xe0 → 0xa0 ≤ low) (hD : a.toNat = 0xed → high ≤ 0x9f) :
    ∃ ch tail, a :: rest = String.utf8EncodeChar ch ++ tail := by
  obtain ⟨b, rest, rfl, hbl, hbh, h⟩ := exists_more h
  obtain ⟨c, tail, rfl, hcl, hch⟩ := exists_last h
  obtain ⟨ch, hch⟩ := exists_char_three (a := a) (b := b) (c := c) tail
    ((a.toNat - 0xe0) * 4096 + (b.toNat % 64) * 64 + c.toNat % 64)
    (by omega) (by omega) (by omega) (by omega) (by omega) (by omega)
  exact ⟨ch, tail, hch⟩

theorem exists_encodeChar_within_two {a : UInt8} {low high : Nat} {rest : List UInt8}
    (h : none ∉ decodeFrom (.within 2 low high (a.toNat - 0xf0)) rest)
    (ha : 0xf0 ≤ a.toNat ∧ a.toNat ≤ 0xf4) (hl : 0x80 ≤ low) (hh : high ≤ 0xbf)
    (h0 : a.toNat = 0xf0 → 0x90 ≤ low) (h4 : a.toNat = 0xf4 → high ≤ 0x8f) :
    ∃ ch tail, a :: rest = String.utf8EncodeChar ch ++ tail := by
  obtain ⟨b, rest, rfl, hbl, hbh, h⟩ := exists_more h
  obtain ⟨c, rest, rfl, hcl, hch, h⟩ := exists_more h
  obtain ⟨d, tail, rfl, hdl, hdh⟩ := exists_last h
  obtain ⟨ch, hch⟩ := exists_char_four (a := a) (b := b) (c := c) (d := d) tail
    ((a.toNat - 0xf0) * 262144 + (b.toNat % 64) * 4096 + (c.toNat % 64) * 64 + d.toNat % 64)
    (by omega) (by omega) (by omega) (by omega) (by omega) (by omega)
  exact ⟨ch, tail, hch⟩

theorem exists_encodeChar {a : UInt8} {rest : List UInt8}
    (h : none ∉ decodeFrom .start (a :: rest)) :
    ∃ ch tail, a :: rest = String.utf8EncodeChar ch ++ tail := by
  simp only [decodeFrom, step, List.mem_append, not_or] at h
  obtain ⟨hdone, h⟩ := h
  unfold lead at hdone h
  split at h
  · rename_i ha
    refine ⟨Char.ofNat a.toNat, rest, ?_⟩
    have hv := toNat_val_ofNat (v := a.toNat) (by unfold Nat.isValidChar; omega)
    simp only [String.utf8EncodeChar, hv, if_pos ha, UInt8.ofNat_toNat]
    rfl
  rename_i h1
  split at h
  · rename_i ha
    obtain ⟨b, tail, rfl, hbl, hbh⟩ := exists_last h
    obtain ⟨ch, hch⟩ := exists_char_two (a := a) (b := b) tail
      ((a.toNat - 0xc0) * 64 + b.toNat % 64) (by omega) (by omega) (by omega) (by omega)
    exact ⟨ch, tail, hch⟩
  rename_i h2
  split at h
  · rename_i ha
    exact exists_encodeChar_within_one (by rwa [ha]) (by omega) (by omega) (by omega)
      (by omega) (by omega)
  split at h
  · rename_i ha
    exact exists_encodeChar_within_one (by rwa [ha]) (by omega) (by omega) (by omega)
      (by omega) (by omega)
  split at h
  · rename_i ha
    exact exists_encodeChar_within_one h (by omega) (by omega) (by omega) (by omega) (by omega)
  split at h
  · rename_i ha
    exact exists_encodeChar_within_two (by rwa [ha]) (by omega) (by omega) (by omega)
      (by omega) (by omega)
  split at h
  · rename_i ha
    exact exists_encodeChar_within_two h (by omega) (by omega) (by omega) (by omega) (by omega)
  split at h
  · rename_i ha
    exact exists_encodeChar_within_two (by rwa [ha]) (by omega) (by omega) (by omega)
      (by omega) (by omega)
  · simp_all


theorem exists_eq_flatMap {bytes : List UInt8} (h : none ∉ decode bytes) :
    ∃ cs : List Char, bytes = cs.flatMap String.utf8EncodeChar := by
  -- each character takes at least one byte away
  induction hn : bytes.length using Nat.strongRecOn generalizing bytes with
  | ind n ih =>
    cases bytes with
    | nil => exact ⟨[], rfl⟩
    | cons a rest =>
      obtain ⟨ch, tail, hb⟩ := exists_encodeChar h
      rw [hb, decode, decodeFrom_encodeChar] at h
      have hlen : tail.length < n := by
        have hpos := Char.utf8Size_pos ch
        rw [← hn, hb, List.length_append, String.length_utf8EncodeChar]
        omega
      obtain ⟨cs, hcs⟩ := ih _ hlen (fun hf => h (List.mem_cons_of_mem _ hf)) rfl
      exact ⟨ch :: cs, by rw [hb, hcs, List.flatMap_cons]⟩

theorem mapM_id_eq_some_iff {α : Type} {os : List (Option α)} {cs : List α} :
    os.mapM id = some cs ↔ os = cs.map some := by
  induction os generalizing cs with
  | nil => cases cs <;> simp
  | cons o os ih =>
    cases o with
    | none => cases cs <;> simp
    | some c =>
      have hm : (some c :: os).mapM id = (os.mapM id).map (c :: ·) := by
        cases hos : os.mapM id <;> simp [hos]
      rw [hm, Option.map_eq_some_iff]
      cases cs with
      | nil => simp
      | cons d cs =>
        simp only [List.cons.injEq, exists_eq_right_right, ih, List.map_cons, Option.some.injEq]
        exact and_comm

/-- The bytes that read as a text are those that it is written with, and no others. -/
theorem decode?_eq_some_iff {bytes : List UInt8} {s : String} :
    decode? bytes = some s ↔ bytes = s.toUTF8.toList := by
  constructor
  · intro h
    obtain ⟨cs, hm, rfl⟩ := Option.map_eq_some_iff.mp h
    rw [mapM_id_eq_some_iff] at hm
    have hfull : none ∉ decode bytes := by simp [hm]
    obtain ⟨ds, rfl⟩ := exists_eq_flatMap hfull
    have hd : decode (ds.flatMap String.utf8EncodeChar) = ds.map some := by
      rw [← String.toList_ofList (l := ds), ← toList_toUTF8, decode_toUTF8]
    have hcs : ds = cs := by
      simpa [List.map_inj_right] using hd.symm.trans hm
    rw [hcs, toList_toUTF8, String.toList_ofList]
  · rintro rfl
    exact decode?_toUTF8 s

end SimApprove.Text.Utf8
