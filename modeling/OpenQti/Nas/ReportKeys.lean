import OpenQti.Lib.Ensures
import OpenQti.Lib.Run
import OpenQti.Nas.CellLocation
import OpenQti.Qmi.TlvChain

/-!
# The network under which a cell is reported

`update_cell_location_information` takes the country code and the network code from the state before
it has looked at the message, and brings the state up to date afterwards. So the first message from
another network is reported under the old one, and a message that names no network, for which zeros
stand, makes the current network forgotten. `reports_keyed_iff` says when this does not matter.

Signal tracking is enabled.
-/

namespace OpenQti.Nas

open Bytes Qmi Machine Except

/-- A message about the location of the serving cell. -/
structure LocationMessage where
  bytes : Bytes
  len : Nat

/-- The TLVs about a serving cell that have a PLMN, with its place in them. -/
def servingCellTlvs : List (CellLacInfo × Nat) :=
  [(.cellId, 7), (.umtsCellInfo, 5), (.lteIntraInfo, 4), (.extendedGeranInfo, 7),
    (.umtsExtendedInfo, 5)]

/-- The message has a TLV about the serving cell with this PLMN. -/
def LocationMessage.Reports (m : LocationMessage) (plmn : Plmn) : Prop :=
  ∃ tlv field offset, (tlv, field) ∈ servingCellTlvs ∧
    TlvReached m.bytes m.len tlv.code offset ∧ m.bytes offset = tlv.code ∧
    field ≤ le16 m.bytes (offset + 1) ∧ offset + 3 + le16 m.bytes (offset + 1) ≤ m.len ∧
    plmn = plmnAt m.bytes (offset + field)

/-- The request has been successful, and the search for TLVs ends with these data. -/
def LocationMessage.Searched (m : LocationMessage) (data : LocationData) : Prop :=
  didQmiOpFail m.bytes m.len = some 0 ∧ (countTlvsInMessage m.bytes m.len).isSome ∧
    searchTlvs m.bytes m.len = .ok data

/-- The numbers of the current network. -/
def CurrentNetwork.numbers (s : CurrentNetwork) : UInt16 × UInt16 :=
  (networkNumber s.mcc, networkNumber s.mnc)

/-- The numbers that a PLMN is decoded to. -/
def Plmn.numbers (plmn : Plmn) : UInt16 × UInt16 :=
  (networkNumber plmn.mccDigits, networkNumber plmn.mncDigits)

/-- A report about a cell is made with the numbers of the network that the message names; a message
that names none leaves the current network as it is. -/
def Keyed (s : CurrentNetwork) (m : LocationMessage) : Prop :=
  ∀ next call, updateCellLocationInformation s true m.bytes m.len = .ok (next, call) →
    (∀ plmn, m.Reports plmn → ∀ cell, call = some cell → (cell.mcc, cell.mnc) = plmn.numbers) ∧
      ((∀ plmn, ¬ m.Reports plmn) → next.mcc = s.mcc ∧ next.mnc = s.mnc)

/-- The message names the current network, if that is known; or it names none, and what the search
takes for its PLMN is the current one, or has the same digits. -/
def FromCurrentNetwork (s : CurrentNetwork) (m : LocationMessage) : Prop :=
  ∀ data, m.Searched data →
    (∀ plmn, m.Reports plmn → s.numbers.1 ≠ 0 → s.numbers.2 ≠ 0 → s.numbers = plmn.numbers) ∧
      ((∀ plmn, ¬ m.Reports plmn) → data.reportedPlmn = s.currPlmn ∨
        data.reportedPlmn.mccDigits = s.mcc ∧ data.reportedPlmn.mncDigits = s.mnc)

/-- The current network after a message. -/
def locationNext (s : CurrentNetwork) (m : LocationMessage) : Except LocationFault CurrentNetwork :=
  (updateCellLocationInformation s true m.bytes m.len).map Prod.fst

/-- Something holds at each message of a run. -/
def Throughout (holds : CurrentNetwork → LocationMessage → Prop) (messages : List LocationMessage) :
    Prop :=
  ∀ before m after s, messages = before ++ m :: after →
    Run locationNext Anything .zero before s → holds s m

/-- Reports are always made under the network that the message names. -/
def AlwaysKeyed : Prop := ∀ messages, Throughout Keyed messages

variable {s next : CurrentNetwork} {m : LocationMessage} {call : Option CellData}
  {data : LocationData}

/-! ## One message -/

theorem walked_ok {result : Option Nat} {n : Nat} : walked result = .ok n ↔ result = some n := by
  cases result with
  | none => simp [walked]
  | some found => simp [walked]

/-- What the update does: the numbers of a report are those of the state before. -/
theorem update_ok_iff :
    updateCellLocationInformation s true m.bytes m.len = .ok (next, call) ↔
      (∃ data, m.Searched data ∧ next = s.report data.reportedPlmn ∧
        call = if s.numbers.1 ≠ 0 ∧ s.numbers.2 ≠ 0 then
          some (data.cell s.numbers.1 s.numbers.2) else none) ∨
      (∃ result, didQmiOpFail m.bytes m.len = some result ∧ result ≠ 0 ∧ next = s ∧
        call = none) := by
  constructor
  · intro h
    simp only [updateCellLocationInformation, Bool.not_true, Bool.false_eq_true, if_false] at h
    obtain ⟨result, hresult, h⟩ := bind_ok h
    rw [walked_ok] at hresult
    split_ifs at h with hfailed
    · cases h
      exact .inr ⟨result, hresult, hfailed, rfl, rfl⟩
    · have hsuccess : result = 0 := by simpa using hfailed
      rw [hsuccess] at hresult
      obtain ⟨count, hcount, h⟩ := bind_ok h
      obtain ⟨data, hdata, h⟩ := bind_ok h
      cases h
      refine .inl ⟨data, ⟨hresult, ?_, hdata⟩, rfl, rfl⟩
      exact Option.isSome_of_eq_some (walked_ok.1 hcount)
  · rintro (⟨data, ⟨hresult, hcount, hdata⟩, rfl, rfl⟩ | ⟨result, hresult, hfailed, rfl, rfl⟩)
    · obtain ⟨count, hcount⟩ := Option.isSome_iff_exists.1 hcount
      simp only [updateCellLocationInformation, locateCell, hresult, hcount, hdata, walked,
        Bool.not_true, Bool.false_eq_true, if_false, bind, Except.bind, ne_eq, not_true_eq_false]
      rfl
    · simp [updateCellLocationInformation, hresult, walked, bind, Except.bind, hfailed]

/-- The reported network is the current one, or its digits are those of the current one. -/
theorem report_unchanged_iff (plmn : Plmn) :
    ((s.report plmn).mcc = s.mcc ∧ (s.report plmn).mnc = s.mnc) ↔
      (plmn = s.currPlmn ∨ plmn.mccDigits = s.mcc ∧ plmn.mncDigits = s.mnc) := by
  unfold CurrentNetwork.report
  by_cases hsame : s.currPlmn = plmn
  · simp [hsame]
  · have hother : ¬ plmn = s.currPlmn := fun h => hsame h.symm
    simp [hsame, hother]

/-- A message is reported under its own network exactly if that is the current one. -/
theorem keyed_iff : Keyed s m ↔ FromCurrentNetwork s m := by
  constructor
  · intro hkeyed data hsearched
    obtain ⟨hreport, hsilent⟩ := hkeyed _ _ (update_ok_iff.2 (.inl ⟨data, hsearched, rfl, rfl⟩))
    refine ⟨fun plmn hplmn hmcc hmnc => ?_, fun hnone => ?_⟩
    · exact hreport plmn hplmn _ (if_pos ⟨hmcc, hmnc⟩)
    · exact (report_unchanged_iff _).1 (hsilent hnone)
  · intro hcurrent next call hupdate
    obtain ⟨data, hsearched, rfl, rfl⟩ | ⟨_, _, _, rfl, rfl⟩ := update_ok_iff.1 hupdate
    · obtain ⟨hreport, hsilent⟩ := hcurrent data hsearched
      refine ⟨fun plmn hplmn cell hcell => ?_, fun hnone => ?_⟩
      · split_ifs at hcell with hknown
        cases hcell
        exact hreport plmn hplmn hknown.1 hknown.2
      · exact (report_unchanged_iff _).2 (hsilent hnone)
    · refine ⟨fun _ _ cell hcell => ?_, fun _ => ⟨rfl, rfl⟩⟩
      cases hcell

/-- A TLV that is found elsewhere leaves the reported PLMN alone. -/
theorem read_plmn {tlv : CellLacInfo} {offset : Nat}
    (h : tlv ∉ [.umtsCellInfo, .lteIntraInfo, .extendedGeranInfo, .umtsExtendedInfo]) :
    (readTlv m.bytes offset data tlv).reportedPlmn = data.reportedPlmn := by
  cases tlv
  all_goals first | rfl | exact absurd (by decide) h

/-- The search takes zeros for the PLMN if it does not find a TLV that has one. -/
theorem searched_zero
    (h : ∀ tlv ∈ [CellLacInfo.umtsCellInfo, .lteIntraInfo, .extendedGeranInfo, .umtsExtendedInfo],
      getTlvOffsetById m.bytes m.len tlv.code = some 0)
    (hsearched : m.Searched data) : data.reportedPlmn = .zero := by
  refine foldlM_invariant (fun data => data.reportedPlmn = .zero) rfl ?_ hsearched.2.2
  intro data tlv next hzero hstep
  obtain ⟨offset, hoffset, hnext⟩ := bind_ok hstep
  cases hnext
  rw [walked_ok] at hoffset
  split_ifs with hfound
  · rw [read_plmn]
    · exact hzero
    · intro hmem
      rw [h tlv hmem] at hoffset
      cases hoffset
      exact Nat.lt_irrefl 0 hfound
  · exact hzero

/-! ## Runs -/

/-- In a run every message is reported under its own network, and the network is kept, exactly if each
message comes from the network that is current when it arrives. -/
theorem reports_keyed_iff (messages : List LocationMessage) :
    Throughout Keyed messages ↔ Throughout FromCurrentNetwork messages := by
  constructor
  · intro h before m after s hmessages hrun
    exact keyed_iff.1 (h before m after s hmessages hrun)
  · intro h before m after s hmessages hrun
    exact keyed_iff.2 (h before m after s hmessages hrun)

/-- A cell of LTE in a network. -/
def sampleLocation (plmn : Plmn) : LocationMessage where
  bytes := Bytes.ofList [0x01, 0x29, 0, 0x80, 0x03, 0x01, 0x02, 1, 0, 0x43, 0, 0x1d, 0,
    0x02, 0x04, 0, 0, 0, 0, 0,
    0x13, 0x13, 0, 1, plmn.first, plmn.second, plmn.third, 0x11, 0x27, 0x3c, 0x2b, 0x1a, 0, 0x64, 0,
    0x10, 0, 7, 0, 0, 0, 0]
  len := 42

/-- The modem moves from the network 262-01 to the network 262-02. -/
theorem new_network_reported_as_old : ¬ AlwaysKeyed := by
  intro h
  have hrun : ∃ s next call,
      Run locationNext Anything .zero [sampleLocation ⟨0x62, 0xf2, 0x10⟩] s ∧
      updateCellLocationInformation s true (sampleLocation ⟨0x62, 0xf2, 0x20⟩).bytes 42 =
        .ok (next, some call) ∧ call.mnc = 1 :=
    ⟨_, _, _, .snoc (.nil _) trivial rfl, rfl, rfl⟩
  obtain ⟨s, next, call, hrun, hupdate, hmnc⟩ := hrun
  have hkeyed := h [sampleLocation ⟨0x62, 0xf2, 0x10⟩, sampleLocation ⟨0x62, 0xf2, 0x20⟩]
    [sampleLocation ⟨0x62, 0xf2, 0x10⟩] _ [] s rfl hrun
  have hreports : (sampleLocation ⟨0x62, 0xf2, 0x20⟩).Reports ⟨0x62, 0xf2, 0x20⟩ := by
    refine ⟨.lteIntraInfo, 4, 20, by decide, ?_, rfl, by decide, by decide, rfl⟩
    exact .next .first (by decide) (by decide) (by decide)
  have hnumbers := (hkeyed next (some call) hupdate).1 _ hreports call rfl
  have htwo : call.mnc = 2 := congrArg Prod.snd hnumbers
  rw [hmnc] at htwo
  exact absurd htwo (by decide)

end OpenQti.Nas
