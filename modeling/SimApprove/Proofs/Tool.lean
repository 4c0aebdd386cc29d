import SimApprove.Client.Tool
import SimApprove.Proofs.Text.Blank
import SimApprove.Proofs.Text.Measure

/-!
# What the tool says of its failures

An error keeps the trimmed text of standard error if it has at most 4096 bytes, and else the
longest start that does not end within a character, followed by a mark. Complaints about the
device are looked for in what is kept, so a complaint counts if it ends within the first 4096
bytes of the trimmed text (`blamesDevice_iff`).
-/

namespace SimApprove.Tool

variable {text marker : String} {stderr : List UInt8}

-- ---------------------------------------------------------------------------
-- Shortening
-- ---------------------------------------------------------------------------

theorem shorten_eq_self (h : text.utf8ByteSize ≤ 4096) : shorten text = text := by
  rw [shorten, Text.byteSize_toList, errorLimit, if_neg (by omega)]

theorem shorten_eq_cut (h : 4096 < text.utf8ByteSize) :
    shorten text = String.ofList (Text.cut 4096 text.toList) ++ "... [truncated]" := by
  rw [shorten, Text.byteSize_toList, errorLimit, if_pos h]

/-- Less is left of a long text, but not less than a character under the limit. -/
theorem exists_start_of_shorten (h : 4096 < text.utf8ByteSize) :
    ∃ p : String, Text.LongestStart 4096 p.toList text.toList ∧
      shorten text = p ++ "... [truncated]" ∧ 4093 ≤ p.utf8ByteSize ∧
      (shorten text).utf8ByteSize ≤ 4111 := by
  have hlong := Text.longestStart_cut 4096 text.toList
  have hroom : 4096 < Text.byteSize (Text.cut 4096 text.toList) + 4 :=
    Text.lt_byteSize_cut (by rwa [Text.byteSize_toList])
  have hfits := hlong.fits
  rw [Text.byteSize_eq] at hroom hfits
  have hmark : "... [truncated]".utf8ByteSize = 15 := by decide +kernel
  refine ⟨String.ofList (Text.cut 4096 text.toList), ?_, shorten_eq_cut h, by omega, ?_⟩
  · rwa [String.toList_ofList]
  · rw [shorten_eq_cut h, String.utf8ByteSize_append, hmark]
    omega

-- ---------------------------------------------------------------------------
-- Complaints
-- ---------------------------------------------------------------------------

def Complains (text : String) : Prop :=
  "Invalid device".toList <:+: text.toList ∨ "No devices are booted".toList <:+: text.toList

/-- One of the two complaints stands in the text and ends within so many bytes. -/
def ComplainsWithin (limit : Nat) (text : String) : Prop :=
  Text.EndsWithin limit "Invalid device".toList text.toList ∨
    Text.EndsWithin limit "No devices are booted".toList text.toList

/-- What the tool wrote to standard error complains about the device in time. -/
def BlamesDevice (stderr : List UInt8) : Prop :=
  ComplainsWithin 4096 (Text.trim (Text.Utf8.decodeLossy stderr))

theorem ComplainsWithin.complains {limit : Nat} (h : ComplainsWithin limit text) :
    Complains text :=
  h.imp Text.EndsWithin.isInfix Text.EndsWithin.isInfix

theorem complains_trim_iff : Complains (Text.trim text) ↔ Complains text := by
  have htrimmed := Text.trimmed_trimChars text.toList
  have hinvalid : Text.Trimmed "Invalid device".toList "Invalid device".toList :=
    Text.trimmed_of_any (by decide) (by decide)
  have hnone : Text.Trimmed "No devices are booted".toList "No devices are booted".toList :=
    Text.trimmed_of_any (by decide) (by decide)
  rw [Complains, Text.toList_trim, htrimmed.infix_iff hinvalid, htrimmed.infix_iff hnone]
  rfl

/-- The mark at the end of a text that was cut neither is a complaint nor completes one. -/
theorem infix_shorten_iff (hdot : '.' ∉ marker.toList)
    (hmark : ¬ marker.toList <:+: ".. [truncated]".toList) :
    marker.toList <:+: (shorten text).toList ↔
      Text.EndsWithin 4096 marker.toList text.toList := by
  rw [← Text.infix_cut_iff]
  by_cases h : text.utf8ByteSize ≤ 4096
  · rw [shorten_eq_self h, Text.cut_eq_self (by rwa [Text.byteSize_toList])]
  · have hlist : (shorten text).toList =
        Text.cut 4096 text.toList ++ '.' :: ".. [truncated]".toList := by
      rw [shorten_eq_cut (Nat.lt_of_not_le h), String.toList_append, String.toList_ofList]
      rfl
    rw [hlist, Text.infix_append_cons_iff hdot, or_iff_left hmark]

theorem complains_shorten_iff : Complains (shorten text) ↔ ComplainsWithin 4096 text := by
  rw [Complains, infix_shorten_iff (by decide) (by rw [← Text.occursIn_iff]; decide),
    infix_shorten_iff (by decide) (by rw [← Text.occursIn_iff]; decide)]
  rfl

theorem complainsWithin_of_fits (h : Complains text) (hfits : text.utf8ByteSize ≤ 4096) :
    ComplainsWithin 4096 text := by
  rwa [← complains_shorten_iff, shorten_eq_self hfits]

theorem complainsWithin_append_iff {front rest : String} (hsize : front.utf8ByteSize = 4096) :
    ComplainsWithin 4096 (front ++ rest) ↔ Complains front := by
  have hcut : Text.cut 4096 (front ++ rest).toList = front.toList := by
    rw [String.toList_append, Text.cut_append (by rwa [Text.byteSize_toList])]
  simp only [ComplainsWithin, Complains, ← Text.infix_cut_iff, hcut]

-- ---------------------------------------------------------------------------
-- Classification
-- ---------------------------------------------------------------------------

theorem blamesDevice_iff :
    missingDeviceTexts.any (Text.contains (errorText stderr) ·) = true ↔ BlamesDevice stderr := by
  rw [BlamesDevice, ← complains_shorten_iff]
  simp [missingDeviceTexts, Complains, Text.contains_iff, errorText]

theorem classify_of_blamesDevice {udid command status : String} (h : BlamesDevice stderr) :
    classify udid (.commandFailed command status (errorText stderr)) =
      .deviceNotFound udid (errorText stderr) := by
  rw [classify, if_pos (blamesDevice_iff.mpr h)]

theorem classify_of_not_blamesDevice {udid command status : String} (h : ¬ BlamesDevice stderr) :
    classify udid (.commandFailed command status (errorText stderr)) =
      .commandFailed command status (errorText stderr) := by
  rw [classify, if_neg (mt blamesDevice_iff.mp h)]

end SimApprove.Tool
