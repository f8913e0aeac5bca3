import CompanionBus.Response
/-
  Answers are read exactly off the layouts of their commands.

  1. **Specification** (`parse_iff_layout`) — a packet of another command is refused, and so is one
     that reports a failure, whatever else it holds. Any other packet is read as an answer exactly if
     its payload begins with the `Layout` of the command, and as the answer that this layout writes.
     Spare bytes, and whatever follows the layout, make no difference, not even to the error. All
     errors but the status that the device reports itself say that the frame is bad.

  2. **Layouts** — `Layout c used r` writes the payload down from the front, part by part, as the
     table of the protocol does: a `1`, the flags, two spare bytes, and then the numbers of the
     answer and its data.

  3. **The crux** — the readers look at positions, a layout is a sequence of parts. A payload that is
     long enough can be cut into the parts (`exists_word16_append`), and each position is the front
     of what is left when the parts in front of it are dropped (`word16At_of_drop`).
-/
namespace CompanionBus

/-! ## Formats and rendered times -/

theorem TimeFormat.ofCode_eq_ok_iff {code : UInt8} {format : TimeFormat} :
    ofCode code = .ok format ↔ code = format.code := by
  rw [← ofCode?_eq_some_iff, ofCode]
  cases ofCode? code <;> simp

theorem FormattedTime.ofBytes_eq_ok_iff {format : TimeFormat} {data : List UInt8}
    {t : FormattedTime} : ofBytes format data = .ok t ↔ format = t.format ∧ data = t.data := by
  rw [ofBytes]
  constructor
  · intro h
    split at h
    · cases h
      exact ⟨rfl, rfl⟩
    · cases h
  · rintro ⟨rfl, rfl⟩
    rw [dif_pos t.length_data]

namespace Response

open LittleEndian hiding decode

/-! ## Layouts -/

/-- `Layout c used r` — the payload `used` answers the command `c` by `r`. -/
inductive Layout : Command → List UInt8 → Response → Prop where
  | opened (flags spare spare' : UInt8) (handle : UInt16) :
      Layout .openUrl (1 :: flags :: spare :: spare' :: encode 2 handle.toNat)
        (.opened { handle, flags := ⟨flags⟩ })
  /-- The length of the data stands in front of it. -/
  | data (flags spare spare' : UInt8) (handle : UInt16) (offset : UInt32) (length : UInt16)
      (data : List UInt8) (h : data.length = length.toNat) :
      Layout .read (1 :: flags :: spare :: spare' :: (encode 2 handle.toNat
          ++ (encode 4 offset.toNat ++ (encode 2 length.toNat ++ data))))
        (.data { handle, offset, flags := ⟨flags⟩, data })
  | written (flags spare spare' : UInt8) (handle : UInt16) (offset : UInt32) (written : UInt16) :
      Layout .write (1 :: flags :: spare :: spare' :: (encode 2 handle.toNat
          ++ (encode 4 offset.toNat ++ encode 2 written.toNat)))
        (.written { handle, offset, written })
  /-- Status and length have their place even if the flags say that they are not known. -/
  | info (flags spare spare' : UInt8) (handle status : UInt16) (length : UInt64) :
      Layout .info (1 :: flags :: spare :: spare' :: (encode 2 handle.toNat
          ++ (encode 2 status.toNat ++ encode 8 length.toNat)))
        (.info
          { handle
            info :=
              { httpStatus := if Flags.has ⟨flags⟩ InfoFlag.hasStatus then some status else none
                contentLength := if Flags.has ⟨flags⟩ InfoFlag.hasLength then some length else none
                flags := ⟨flags⟩ } })
  | time {c : Command} (hc : c = .clockGet ∨ c = .clockSet ∨ c = .clockSync)
      (flags spare spare' : UInt8) (seconds : UInt64) :
      Layout c (1 :: flags :: spare :: spare' :: encode 8 seconds.toNat) (.time ⟨seconds⟩)
  /-- The data has the size of its format, and the payload says so. -/
  | formatted (flags spare spare' length : UInt8) (t : FormattedTime)
      (h : t.format.dataLength = length.toNat) :
      Layout .clockFormat (1 :: flags :: spare :: spare' :: t.format.code :: length :: t.data)
        (.formatted t)
  | timezone (flags spare spare' length : UInt8) (name : String)
      (h : (Utf8.encode name).length = length.toNat) :
      Layout .timezoneGet (1 :: flags :: spare :: spare' :: length :: Utf8.encode name)
        (.timezone name)
  /-- Nothing has to be in the payload. -/
  | closed : Layout .close [] .closed
  | timezoneSet {c : Command} (hc : c = .timezoneSet ∨ c = .timezoneSave) : Layout c [] .timezoneSet

/-- How far into a payload its layout reaches, by what the payload declares. -/
def extent : Command → List UInt8 → Nat
  | .openUrl, _ => 6
  | .read, p => 12 + LittleEndian.decode ((p.drop 10).take 2)
  | .write, _ => 12
  | .info, _ => 16
  | .clockGet, _ | .clockSet, _ | .clockSync, _ => 12
  | .clockFormat, p => 6 + (p.getD 5 0).toNat
  | .timezoneGet, p => 5 + (p.getD 4 0).toNat
  | .close, _ | .timezoneSet, _ | .timezoneSave, _ => 0

variable {c : Command} {p used rest : List UInt8} {r : Response} {e : ProtocolError}

/-- A layout reaches as far as its payload declares, whatever follows it. -/
theorem extent_of_layout (h : Layout c used r) (rest : List UInt8) :
    extent c (used ++ rest) = used.length := by
  cases h with
  | data flags spare spare' handle offset length data h =>
    show 12 + LittleEndian.decode (encode 2 length.toNat) = data.length + 12
    rw [decode_encode length.toNat_lt, h, Nat.add_comm]
  | time hc flags spare spare' seconds =>
    rcases hc with rfl | rfl | rfl <;> rfl
  | formatted flags spare spare' length t h =>
    show 6 + length.toNat = t.data.length + 6
    rw [← h, t.length_data, Nat.add_comm]
  | timezone flags spare spare' length name h =>
    show 5 + length.toNat = (Utf8.encode name).length + 5
    rw [h, Nat.add_comm]
  | timezoneSet hc => rcases hc with rfl | rfl <;> rfl
  | _ => rfl

/-! ## The check of length and version -/

section Checked

variable {n : Nat} {v : UInt8} {read : n ≤ p.length → Except ProtocolError Response}

theorem layoutFault?_cons {b : UInt8} (h : n ≤ (b :: rest).length) :
    layoutFault? (b :: rest) n v = if b = v then none else some (.unsupportedVersion b) := by
  rw [layoutFault?, if_neg (by omega), List.head?_cons, List.headD_cons]
  simp only [Option.some.injEq]

theorem checked_of_some (h : layoutFault? p n v = some e) : checked p n v read = .error e := by
  unfold checked
  split
  · rename_i e' he
    rw [h] at he
    cases he
    rfl
  · rename_i hnone
    rw [h] at hnone
    cases hnone

theorem checked_of_none (h : layoutFault? p n v = none) :
    checked p n v read = read (le_length_of_layoutFault? h) := by
  unfold checked
  split
  · rename_i e he
    rw [h] at he
    cases he
  · rfl

/-- A payload that is long enough, and begins with its version, passes the check. -/
theorem checked_cons {b : UInt8} (hb : b = v) (h : n ≤ (b :: rest).length)
    {read : n ≤ (b :: rest).length → Except ProtocolError Response} :
    checked (b :: rest) n v read = read h := by
  apply checked_of_none
  rw [layoutFault?_cons h, if_pos hb]

/-- What has been read begins with its version, flags and spare bytes. -/
theorem exists_front {read : n + 4 ≤ p.length → Except ProtocolError Response}
    (h : checked p (n + 4) v read = .ok r) :
    ∃ flags spare spare' tail, p = v :: flags :: spare :: spare' :: tail ∧ n ≤ tail.length := by
  cases hfault : layoutFault? p (n + 4) v with
  | some e =>
    rw [checked_of_some hfault] at h
    cases h
  | none =>
    have hlen := le_length_of_layoutFault? hfault
    rcases p with _ | ⟨b, _ | ⟨flags, _ | ⟨spare, _ | ⟨spare', tail⟩⟩⟩⟩
    all_goals simp only [List.length_cons, List.length_nil] at hlen
    · omega
    · omega
    · omega
    · omega
    · rw [layoutFault?_cons (by simpa using hlen)] at hfault
      by_cases hb : b = v
      · exact ⟨flags, spare, spare', tail, by rw [hb], by omega⟩
      · rw [if_neg hb] at hfault
        cases hfault

/-- What follows the bytes that a reader takes does not get through to it. -/
theorem checked_append (hn : 0 < n) (hlen : n ≤ p.length)
    {read' : n ≤ (p ++ rest).length → Except ProtocolError Response}
    (h : ∀ hlen', read' hlen' = read hlen) :
    checked (p ++ rest) n v read' = checked p n v read := by
  have hfault : layoutFault? (p ++ rest) n v = layoutFault? p n v := by
    cases p with
    | nil =>
      rw [List.length_nil] at hlen
      omega
    | cons b p =>
      have hlen' : n ≤ (b :: (p ++ rest)).length := by
        simp only [List.length_cons, List.length_append] at hlen ⊢
        omega
      rw [List.cons_append, layoutFault?_cons hlen, layoutFault?_cons hlen']
  cases hsome : layoutFault? p n v with
  | some e => rw [checked_of_some hsome, checked_of_some (hfault.trans hsome)]
  | none =>
    rw [checked_of_none hsome, checked_of_none (hfault.trans hsome)]
    exact h _

end Checked

/-! ## The readers -/

theorem network_one : (1 : UInt8) = networkVersion := rfl

theorem clock_one : (1 : UInt8) = clockVersion := rfl

section Parts

variable (flags spare spare' : UInt8) (tail : List UInt8)

theorem readOpened_parts (handle : UInt16) :
    readOpened (1 :: flags :: spare :: spare' :: (encode 2 handle.toNat ++ tail))
      = .ok (.opened { handle, flags := ⟨flags⟩ }) := by
  rw [readOpened, checked_cons network_one (by simp), word16At_of_drop 4 handle rfl]
  rfl

theorem readData_parts (handle : UInt16) (offset : UInt32) (length : UInt16) :
    readData (1 :: flags :: spare :: spare' :: (encode 2 handle.toNat
        ++ (encode 4 offset.toNat ++ (encode 2 length.toNat ++ tail))))
      = if tail.length < length.toNat then
          .error (.invalidFrame (.readOverrun length.toNat tail.length))
        else
          .ok (.data { handle, offset, flags := ⟨flags⟩, data := tail.take length.toNat }) := by
  rw [readData, checked_cons network_one (by simp; omega)]
  dsimp only
  rw [word16At_of_drop 10 length rfl, word16At_of_drop 4 handle rfl,
    word32At_of_drop 6 offset rfl]
  have hlength : (1 :: flags :: spare :: spare' :: (encode 2 handle.toNat
      ++ (encode 4 offset.toNat ++ (encode 2 length.toNat ++ tail)))).length = 12 + tail.length := by
    simp only [List.length_cons, List.length_append, length_encode]
    omega
  simp only [hlength, Nat.add_sub_cancel_left, Nat.add_lt_add_iff_left]
  rfl

theorem readWritten_parts (handle : UInt16) (offset : UInt32) (written : UInt16) :
    readWritten (1 :: flags :: spare :: spare' :: (encode 2 handle.toNat
        ++ (encode 4 offset.toNat ++ (encode 2 written.toNat ++ tail))))
      = .ok (.written { handle, offset, written }) := by
  rw [readWritten, checked_cons network_one (by simp; omega), word16At_of_drop 4 handle rfl,
    word32At_of_drop 6 offset rfl, word16At_of_drop 10 written rfl]

theorem readInfo_parts (handle status : UInt16) (length : UInt64) :
    readInfo (1 :: flags :: spare :: spare' :: (encode 2 handle.toNat
        ++ (encode 2 status.toNat ++ (encode 8 length.toNat ++ tail))))
      = .ok (.info
          { handle
            info :=
              { httpStatus := if Flags.has ⟨flags⟩ InfoFlag.hasStatus then some status else none
                contentLength := if Flags.has ⟨flags⟩ InfoFlag.hasLength then some length else none
                flags := ⟨flags⟩ } }) := by
  rw [readInfo, checked_cons network_one (by simp; omega)]
  dsimp only
  rw [word16At_of_drop 4 handle rfl, word16At_of_drop 6 status rfl, word64At_of_drop 8 length rfl]
  rfl

theorem readTime_parts (seconds : UInt64) :
    readTime (1 :: flags :: spare :: spare' :: (encode 8 seconds.toNat ++ tail))
      = .ok (.time ⟨seconds⟩) := by
  rw [readTime, checked_cons clock_one (by simp), word64At_of_drop 4 seconds rfl]

theorem readFormatted_parts (code length : UInt8) :
    readFormatted (1 :: flags :: spare :: spare' :: code :: length :: tail)
      = match TimeFormat.ofCode code with
        | .error e => .error (.value e)
        | .ok format =>
          if tail.length < length.toNat then .error (.invalidFrame (.formattedOverrun length.toNat))
          else
            match FormattedTime.ofBytes format (tail.take length.toNat) with
            | .error e => .error (.value e)
            | .ok t => .ok (.formatted t) := by
  have hlength : (1 :: flags :: spare :: spare' :: code :: length :: tail).length
      = 6 + tail.length := by
    simp only [List.length_cons]
    omega
  rw [readFormatted, checked_cons clock_one (by simp)]
  simp only [hlength, Nat.add_lt_add_iff_left]
  rfl

theorem readTimezone_parts (length : UInt8) :
    readTimezone (1 :: flags :: spare :: spare' :: length :: tail)
      = if tail.length < length.toNat then .error (.invalidFrame (.timezoneOverrun length.toNat))
        else
          match Utf8.decode (tail.take length.toNat) with
          | .error fault => .error (.invalidFrame (.timezoneText fault))
          | .ok name => .ok (.timezone name) := by
  have hlength : (1 :: flags :: spare :: spare' :: length :: tail).length = 5 + tail.length := by
    simp only [List.length_cons]
    omega
  rw [readTimezone, checked_cons clock_one (by simp)]
  simp only [hlength, Nat.add_lt_add_iff_left]
  rfl

end Parts

/-! ## From a layout to its answer -/

/-- **A payload with the layout of a command is read as the answer that the layout writes**, whatever
    follows it. -/
theorem ofPayload_of_layout (h : Layout c used r) (rest : List UInt8) :
    ofPayload c (used ++ rest) = .ok r := by
  cases h with
  | opened flags spare spare' handle => exact readOpened_parts flags spare spare' rest handle
  | data flags spare spare' handle offset length data h =>
    have hparts := readData_parts flags spare spare' (data ++ rest) handle offset length
    rw [if_neg (by rw [List.length_append]; omega), List.take_left' h] at hparts
    exact hparts
  | written flags spare spare' handle offset written =>
    exact readWritten_parts flags spare spare' rest handle offset written
  | info flags spare spare' handle status length =>
    exact readInfo_parts flags spare spare' rest handle status length
  | time hc flags spare spare' seconds =>
    have hparts := readTime_parts flags spare spare' rest seconds
    rcases hc with rfl | rfl | rfl <;> exact hparts
  | formatted flags spare spare' length t h =>
    have hparts := readFormatted_parts flags spare spare' (t.data ++ rest) t.format.code length
    have hlen : t.data.length = length.toNat := t.length_data.trans h
    rw [TimeFormat.ofCode_eq_ok_iff.mpr rfl] at hparts
    dsimp only at hparts
    rw [if_neg (by rw [List.length_append]; omega), List.take_left' hlen,
      FormattedTime.ofBytes_eq_ok_iff.mpr ⟨rfl, rfl⟩] at hparts
    exact hparts
  | timezone flags spare spare' length name h =>
    have hparts := readTimezone_parts flags spare spare' (Utf8.encode name ++ rest) length
    rw [if_neg (by rw [List.length_append]; omega), List.take_left' h, Utf8.decode_encode] at hparts
    exact hparts
  | closed => rfl
  | timezoneSet hc => rcases hc with rfl | rfl <;> rfl

/-! ## From an answer to its layout -/

/-- Data of a declared length can be cut off, if there is so much. -/
theorem exists_data {tail : List UInt8} {n : Nat} (h : n ≤ tail.length) :
    ∃ data rest, tail = data ++ rest ∧ data.length = n :=
  ⟨tail.take n, tail.drop n, (List.take_append_drop n tail).symm, List.length_take_of_le h⟩

theorem layout_of_readOpened (h : readOpened p = .ok r) :
    ∃ used rest, p = used ++ rest ∧ Layout .openUrl used r := by
  obtain ⟨flags, spare, spare', tail, rfl, htail⟩ := exists_front h
  obtain ⟨handle, tail, rfl⟩ := exists_word16_append htail
  rw [← network_one, readOpened_parts] at h
  cases h
  exact ⟨_, tail, rfl, .opened flags spare spare' handle⟩

theorem layout_of_readData (h : readData p = .ok r) :
    ∃ used rest, p = used ++ rest ∧ Layout .read used r := by
  obtain ⟨flags, spare, spare', tail, rfl, htail⟩ := exists_front h
  obtain ⟨handle, tail, rfl⟩ := exists_word16_append (show 2 ≤ tail.length by omega)
  rw [List.length_append, length_encode] at htail
  obtain ⟨offset, tail, rfl⟩ := exists_word32_append (show 4 ≤ tail.length by omega)
  rw [List.length_append, length_encode] at htail
  obtain ⟨length, tail, rfl⟩ := exists_word16_append (show 2 ≤ tail.length by omega)
  rw [← network_one, readData_parts] at h
  split at h
  · cases h
  · rename_i hreach
    obtain ⟨data, rest, rfl, hdata⟩ := exists_data (Nat.le_of_not_lt hreach)
    rw [List.take_left' hdata] at h
    cases h
    exact ⟨_, rest, rfl, .data flags spare spare' handle offset length data hdata⟩

theorem layout_of_readWritten (h : readWritten p = .ok r) :
    ∃ used rest, p = used ++ rest ∧ Layout .write used r := by
  obtain ⟨flags, spare, spare', tail, rfl, htail⟩ := exists_front h
  obtain ⟨handle, tail, rfl⟩ := exists_word16_append (show 2 ≤ tail.length by omega)
  rw [List.length_append, length_encode] at htail
  obtain ⟨offset, tail, rfl⟩ := exists_word32_append (show 4 ≤ tail.length by omega)
  rw [List.length_append, length_encode] at htail
  obtain ⟨written, tail, rfl⟩ := exists_word16_append (show 2 ≤ tail.length by omega)
  rw [← network_one, readWritten_parts] at h
  cases h
  exact ⟨_, tail, rfl, .written flags spare spare' handle offset written⟩

theorem layout_of_readInfo (h : readInfo p = .ok r) :
    ∃ used rest, p = used ++ rest ∧ Layout .info used r := by
  obtain ⟨flags, spare, spare', tail, rfl, htail⟩ := exists_front h
  obtain ⟨handle, tail, rfl⟩ := exists_word16_append (show 2 ≤ tail.length by omega)
  rw [List.length_append, length_encode] at htail
  obtain ⟨status, tail, rfl⟩ := exists_word16_append (show 2 ≤ tail.length by omega)
  rw [List.length_append, length_encode] at htail
  obtain ⟨length, tail, rfl⟩ := exists_word64_append (show 8 ≤ tail.length by omega)
  rw [← network_one, readInfo_parts] at h
  cases h
  exact ⟨_, tail, rfl, .info flags spare spare' handle status length⟩

theorem layout_of_readTime (hc : c = .clockGet ∨ c = .clockSet ∨ c = .clockSync)
    (h : readTime p = .ok r) : ∃ used rest, p = used ++ rest ∧ Layout c used r := by
  obtain ⟨flags, spare, spare', tail, rfl, htail⟩ := exists_front h
  obtain ⟨seconds, tail, rfl⟩ := exists_word64_append htail
  rw [← clock_one, readTime_parts] at h
  cases h
  exact ⟨_, tail, rfl, .time hc flags spare spare' seconds⟩

theorem layout_of_readFormatted (h : readFormatted p = .ok r) :
    ∃ used rest, p = used ++ rest ∧ Layout .clockFormat used r := by
  obtain ⟨flags, spare, spare', tail, rfl, htail⟩ := exists_front h
  rcases tail with _ | ⟨code, _ | ⟨length, tail⟩⟩
  · cases htail
  · simp at htail
  · rw [← clock_one, readFormatted_parts] at h
    -- each step of the reader succeeds
    split at h
    · cases h
    rename_i format hformat
    split at h
    · cases h
    rename_i hreach
    obtain ⟨data, rest, rfl, hdata⟩ := exists_data (Nat.le_of_not_lt hreach)
    rw [List.take_left' hdata] at h
    split at h
    · cases h
    rename_i t ht
    cases h
    obtain rfl := TimeFormat.ofCode_eq_ok_iff.mp hformat
    obtain ⟨rfl, rfl⟩ := FormattedTime.ofBytes_eq_ok_iff.mp ht
    have hlength : t.format.dataLength = length.toNat := t.length_data.symm.trans hdata
    exact ⟨_, rest, rfl, .formatted flags spare spare' length t hlength⟩

theorem layout_of_readTimezone (h : readTimezone p = .ok r) :
    ∃ used rest, p = used ++ rest ∧ Layout .timezoneGet used r := by
  obtain ⟨flags, spare, spare', tail, rfl, htail⟩ := exists_front h
  rcases tail with _ | ⟨length, tail⟩
  · cases htail
  · rw [← clock_one, readTimezone_parts] at h
    split at h
    · cases h
    rename_i hreach
    obtain ⟨data, rest, rfl, hdata⟩ := exists_data (Nat.le_of_not_lt hreach)
    rw [List.take_left' hdata] at h
    split at h
    · cases h
    rename_i name hname
    cases h
    obtain rfl := Utf8.decode_eq_ok_iff.mp hname
    exact ⟨_, rest, rfl, .timezone flags spare spare' length name hdata⟩

/-- **Only a payload with the layout of the command is read**, and as the answer that the layout
    writes. -/
theorem layout_of_ofPayload (h : ofPayload c p = .ok r) :
    ∃ used rest, p = used ++ rest ∧ Layout c used r := by
  cases c with
  | openUrl => exact layout_of_readOpened h
  | read => exact layout_of_readData h
  | write => exact layout_of_readWritten h
  | close =>
    cases h
    exact ⟨[], p, rfl, .closed⟩
  | info => exact layout_of_readInfo h
  | clockGet => exact layout_of_readTime (Or.inl rfl) h
  | clockSet => exact layout_of_readTime (Or.inr (Or.inl rfl)) h
  | clockSync => exact layout_of_readTime (Or.inr (Or.inr rfl)) h
  | clockFormat => exact layout_of_readFormatted h
  | timezoneGet => exact layout_of_readTimezone h
  | timezoneSet =>
    cases h
    exact ⟨[], p, rfl, .timezoneSet (Or.inl rfl)⟩
  | timezoneSave =>
    cases h
    exact ⟨[], p, rfl, .timezoneSet (Or.inr rfl)⟩

/-! ## What makes no difference -/

/-- The spare bytes make no difference, not even to an error. -/
theorem ofPayload_spare (version flags spare spare' other other' : UInt8) (rest : List UInt8) :
    ofPayload c (version :: flags :: spare :: spare' :: rest)
      = ofPayload c (version :: flags :: other :: other' :: rest) := by
  cases c <;> rfl

theorem getD_of_lt {i : Nat} (h : i < p.length) : p.getD i 0 = p[i] := by
  rw [List.getD_eq_getElem?_getD, List.getElem?_eq_getElem h, Option.getD_some]

theorem getD_append_of_lt {i : Nat} (h : i < used.length) :
    (used ++ rest).getD i 0 = used[i] := by
  rw [getD_of_lt (by rw [List.length_append]; omega), List.getElem_append_left h]

theorem readOpened_append (h : 6 ≤ p.length) (rest : List UInt8) :
    readOpened (p ++ rest) = readOpened p := by
  rw [readOpened, readOpened]
  refine checked_append (by omega) h fun _ => ?_
  rw [word16At_append (by omega), List.getElem_append_left]

theorem readData_append (h : 12 + LittleEndian.decode ((p.drop 10).take 2) ≤ p.length)
    (rest : List UInt8) : readData (p ++ rest) = readData p := by
  rw [readData, readData]
  refine checked_append (by omega) (by omega) fun _ => ?_
  have htwo : ((p.drop 10).take 2).length = 2 := by
    rw [List.length_take, List.length_drop]
    omega
  have hlt := decode_lt ((p.drop 10).take 2)
  rw [htwo] at hlt
  have hlength : (word16At p 10 (by omega)).toNat = LittleEndian.decode ((p.drop 10).take 2) := by
    rw [word16At, numberAt]
    exact UInt16.toNat_ofNat_of_lt' hlt
  dsimp only
  rw [word16At_append (show 10 + 2 ≤ p.length by omega),
    word16At_append (show 4 + 2 ≤ p.length by omega),
    word32At_append (show 6 + 4 ≤ p.length by omega), List.getElem_append_left, hlength,
    if_neg (by rw [List.length_append]; omega), if_neg (by omega),
    take_drop_append (by omega)]

theorem readWritten_append (h : 12 ≤ p.length) (rest : List UInt8) :
    readWritten (p ++ rest) = readWritten p := by
  rw [readWritten, readWritten]
  refine checked_append (by omega) h fun _ => ?_
  rw [word16At_append (show 10 + 2 ≤ p.length by omega),
    word16At_append (show 4 + 2 ≤ p.length by omega), word32At_append (by omega)]

theorem readInfo_append (h : 16 ≤ p.length) (rest : List UInt8) :
    readInfo (p ++ rest) = readInfo p := by
  rw [readInfo, readInfo]
  refine checked_append (by omega) h fun _ => ?_
  dsimp only
  rw [word16At_append (show 6 + 2 ≤ p.length by omega),
    word16At_append (show 4 + 2 ≤ p.length by omega), word64At_append (by omega),
    List.getElem_append_left]

theorem readTime_append (h : 12 ≤ p.length) (rest : List UInt8) :
    readTime (p ++ rest) = readTime p := by
  rw [readTime, readTime]
  refine checked_append (by omega) h fun _ => ?_
  rw [word64At_append (by omega)]

theorem readFormatted_append (h : 6 + (p.getD 5 0).toNat ≤ p.length) (rest : List UInt8) :
    readFormatted (p ++ rest) = readFormatted p := by
  rw [readFormatted, readFormatted]
  refine checked_append (by omega) (by omega) fun _ => ?_
  have hlength : p.getD 5 0 = p[5] := getD_of_lt (by omega)
  rw [hlength] at h
  rw [List.getElem_append_left (show 4 < p.length by omega)]
  cases TimeFormat.ofCode p[4] with
  | error e => rfl
  | ok format =>
    dsimp only
    rw [List.getElem_append_left (show 5 < p.length by omega),
      if_neg (by rw [List.length_append]; omega), if_neg (by omega),
      take_drop_append (by omega)]

theorem readTimezone_append (h : 5 + (p.getD 4 0).toNat ≤ p.length) (rest : List UInt8) :
    readTimezone (p ++ rest) = readTimezone p := by
  rw [readTimezone, readTimezone]
  refine checked_append (by omega) (by omega) fun _ => ?_
  have hlength : p.getD 4 0 = p[4] := getD_of_lt (by omega)
  rw [hlength] at h
  dsimp only
  rw [List.getElem_append_left (show 4 < p.length by omega),
    if_neg (by rw [List.length_append]; omega), if_neg (by omega),
    take_drop_append (by omega)]

/-- Nothing behind the extent of a payload counts for the extent. -/
theorem extent_append_congr (h : extent c (used ++ rest) ≤ used.length) (rest' : List UInt8) :
    extent c (used ++ rest') = extent c (used ++ rest) := by
  cases c with
  | read =>
    have hlen : 10 + 2 ≤ used.length := Nat.le_of_add_right_le h
    rw [extent, extent, take_drop_append hlen, take_drop_append hlen]
  | clockFormat =>
    have hlen : 5 < used.length := Nat.le_of_add_right_le h
    rw [extent, extent, getD_append_of_lt hlen, getD_append_of_lt hlen]
  | timezoneGet =>
    have hlen : 4 < used.length := Nat.le_of_add_right_le h
    rw [extent, extent, getD_append_of_lt hlen, getD_append_of_lt hlen]
  | _ => rfl

/-- **What follows the layout makes no difference**, not even to an error. -/
theorem ofPayload_append (h : extent c (used ++ rest) ≤ used.length) :
    ofPayload c (used ++ rest) = ofPayload c used := by
  rw [← extent_append_congr h [], List.append_nil] at h
  cases c with
  | openUrl => exact readOpened_append h rest
  | read => exact readData_append h rest
  | write => exact readWritten_append h rest
  | info => exact readInfo_append h rest
  | clockGet | clockSet | clockSync => exact readTime_append h rest
  | clockFormat => exact readFormatted_append h rest
  | timezoneGet => exact readTimezone_append h rest
  | close | timezoneSet | timezoneSave => rfl

/-! ## Errors -/

/-- `Refusal p e` — the error `e` is about the payload `p`: it is of another version, or it has not the
    length or the data that the layout wants. -/
inductive Refusal (p : List UInt8) : ProtocolError → Prop where
  | version (version : UInt8) : Refusal p (.unsupportedVersion version)
  | payloadShort (expected : Nat) : Refusal p (.invalidFrame (.payloadShort expected p.length))
  | readOverrun {declared available : Nat} (hlen : p.length = 12 + available)
      (h : available < declared) : Refusal p (.invalidFrame (.readOverrun declared available))
  | formattedOverrun (declared : Nat) : Refusal p (.invalidFrame (.formattedOverrun declared))
  | timezoneOverrun (declared : Nat) : Refusal p (.invalidFrame (.timezoneOverrun declared))
  | timezoneText (fault : Utf8.Fault) : Refusal p (.invalidFrame (.timezoneText fault))
  | value (error : ValueError) : Refusal p (.value error)

/-- A refusal is an error of the protocol. It is not a status, nor does it complain about the shape of
    an answer. -/
theorem Refusal.proper (h : Refusal p e) :
    e.kind = .protocol ∧ (∀ status, e ≠ .status status) ∧
      ∀ shape, e ≠ .invalidFrame (.unrelated shape) := by
  cases h <;> exact ⟨rfl, nofun, nofun⟩

theorem refusal_of_layoutFault? {n : Nat} {v : UInt8} (h : layoutFault? p n v = some e) :
    Refusal p e := by
  rw [layoutFault?] at h
  split at h
  · cases h
    exact .payloadShort n
  split at h
  · cases h
  · cases h
    exact .version _

/-- An error is one of the check, or comes from what is read behind it. -/
theorem refusal_of_checked {n : Nat} {v : UInt8}
    {read : n ≤ p.length → Except ProtocolError Response}
    (hread : ∀ hlen, read hlen = .error e → Refusal p e) (h : checked p n v read = .error e) :
    Refusal p e := by
  cases hfault : layoutFault? p n v with
  | some e' =>
    rw [checked_of_some hfault] at h
    cases h
    exact refusal_of_layoutFault? hfault
  | none =>
    rw [checked_of_none hfault] at h
    exact hread _ h

/-- A reader that cannot fail behind the check has only the errors of the check. -/
theorem refusal_of_checked_ok {n : Nat} {v : UInt8} {read : n ≤ p.length → Response}
    (h : checked p n v (fun hlen => .ok (read hlen)) = .error e) : Refusal p e := by
  refine refusal_of_checked (fun hlen hread => ?_) h
  cases hread

theorem refusal_of_readData (h : readData p = .error e) : Refusal p e := by
  refine refusal_of_checked (fun hlen hread => ?_) h
  dsimp only at hread
  split at hread
  · cases hread
    exact .readOverrun (by omega) (by omega)
  · cases hread

theorem refusal_of_readFormatted (h : readFormatted p = .error e) : Refusal p e := by
  refine refusal_of_checked (fun hlen hread => ?_) h
  split at hread
  · cases hread
    exact .value _
  dsimp only at hread
  split at hread
  · cases hread
    exact .formattedOverrun _
  split at hread
  · cases hread
    exact .value _
  · cases hread

theorem refusal_of_readTimezone (h : readTimezone p = .error e) : Refusal p e := by
  refine refusal_of_checked (fun hlen hread => ?_) h
  dsimp only at hread
  split at hread
  · cases hread
    exact .timezoneOverrun _
  split at hread
  · cases hread
    exact .timezoneText _
  · cases hread

/-- **A payload that is not read is refused for its bytes.** -/
theorem refusal_of_ofPayload (h : ofPayload c p = .error e) : Refusal p e := by
  cases c with
  | openUrl => exact refusal_of_checked_ok (show readOpened p = _ from h)
  | read => exact refusal_of_readData h
  | write => exact refusal_of_checked_ok (show readWritten p = _ from h)
  | info => exact refusal_of_checked_ok (show readInfo p = _ from h)
  | clockGet | clockSet | clockSync => exact refusal_of_checked_ok (show readTime p = _ from h)
  | clockFormat => exact refusal_of_readFormatted h
  | timezoneGet => exact refusal_of_readTimezone h
  | close | timezoneSet | timezoneSave => cases h

/-- `Faulty p e` — the error `e` blames the frame that `p` came in. If it says that a read declares
    more data than there is, then the two lengths in it are right. -/
def Faulty (p : List UInt8) (e : ProtocolError) : Prop :=
  e.kind = .protocol ∧ ∀ declared available, e = .invalidFrame (.readOverrun declared available) →
    p.length = 12 + available ∧ available < declared

/-- **All errors in reading a payload blame the frame.** -/
theorem faulty_of_ofPayload (h : ofPayload c p = .error e) : Faulty p e := by
  have hrefusal := refusal_of_ofPayload h
  refine ⟨hrefusal.proper.1, fun declared available he => ?_⟩
  subst he
  cases hrefusal with
  | readOverrun hlen hlt => exact ⟨hlen, hlt⟩

/-! ## Packets as answers -/

variable {packet : Packet}

theorem parse_of_command_ne (h : packet.command ≠ c) :
    parse c packet = .error (.unexpectedResponse c packet.command) := by
  rw [parse, if_pos h]

theorem parse_of_status_ne (h : packet.command = c) (hstatus : packet.status ≠ .ok) :
    parse c packet = .error (.status packet.status) := by
  rw [parse, if_neg (not_not_intro h), if_pos hstatus]

theorem parse_of_ok (h : packet.command = c) (hstatus : packet.status = .ok) :
    parse c packet = ofPayload c packet.payload := by
  rw [parse, if_neg (not_not_intro h), if_neg (not_not_intro hstatus)]

/-- An error in reading an answer is the status that the device reports, or blames the frame. -/
theorem parse_eq_error (h : parse c packet = .error e) :
    (packet.status ≠ .ok ∧ e = .status packet.status) ∨ Faulty packet.payload e := by
  by_cases hcommand : packet.command = c
  · by_cases hstatus : packet.status = .ok
    · rw [parse_of_ok hcommand hstatus] at h
      exact Or.inr (faulty_of_ofPayload h)
    · rw [parse_of_status_ne hcommand hstatus] at h
      cases h
      exact Or.inl ⟨hstatus, rfl⟩
  · rw [parse_of_command_ne hcommand] at h
    cases h
    exact Or.inr ⟨rfl, nofun⟩

/-- An answer hangs on its payload only by what is read from it. -/
theorem parse_congr {p p' : List UInt8} (h : ofPayload c p = ofPayload c p') :
    parse c { packet with payload := p } = parse c { packet with payload := p' } := by
  rw [parse, parse, h]
  rfl

/-- **Answers are read exactly off the layouts.** A packet of another command is refused, and one
    with a status other than success is that error. Any other packet is read as an answer exactly if
    its payload begins with the layout that writes this answer. The spare bytes make no difference,
    nor does what follows the bytes that the payload declares. All errors but the status blame the
    frame. -/
theorem parse_iff_layout (c : Command) (packet : Packet) :
    (packet.command ≠ c → parse c packet = .error (.unexpectedResponse c packet.command)) ∧
    (packet.command = c → packet.status ≠ .ok → parse c packet = .error (.status packet.status)) ∧
    (packet.command = c → packet.status = .ok → ∀ r, parse c packet = .ok r ↔
      ∃ used rest, packet.payload = used ++ rest ∧ Layout c used r) ∧
    (∀ version flags spare spare' other other' rest,
      parse c { packet with payload := version :: flags :: spare :: spare' :: rest }
        = parse c { packet with payload := version :: flags :: other :: other' :: rest }) ∧
    (∀ used r rest, Layout c used r → extent c (used ++ rest) = used.length) ∧
    (∀ used rest rest', extent c (used ++ rest) ≤ used.length →
      parse c { packet with payload := used ++ rest }
        = parse c { packet with payload := used ++ rest' }) ∧
    ∀ e, parse c packet = .error e →
      (packet.status ≠ .ok ∧ e = .status packet.status) ∨ Faulty packet.payload e := by
  refine ⟨parse_of_command_ne, parse_of_status_ne, fun hcommand hstatus r => ?_, ?_,
    fun used r rest h => extent_of_layout h rest, ?_, fun e => parse_eq_error⟩
  · rw [parse_of_ok hcommand hstatus]
    constructor
    · exact layout_of_ofPayload
    · rintro ⟨used, rest, hpayload, hlayout⟩
      rw [hpayload]
      exact ofPayload_of_layout hlayout rest
  · intro version flags spare spare' other other' rest
    exact parse_congr (ofPayload_spare version flags spare spare' other other' rest)
  · intro used rest rest' h
    have h' : extent c (used ++ rest') ≤ used.length := by
      rw [extent_append_congr h]
      exact h
    exact parse_congr ((ofPayload_append h).trans (ofPayload_append h').symm)

end Response

end CompanionBus
