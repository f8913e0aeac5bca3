import CompanionBus.Proofs.Slip.Place
/-
  What becomes of the bytes between two `END`s when they are unwrapped.

  1. **Specification (`decode_eq_iff`)** — `Unwraps` lists all that can become of them. They are read
     to the end, and then they are an escaped frame; or they are read up to the first `ESC` with
     something behind it that is no stand-in, and are refused for that byte.

  2. **No dangling escape** — the byte behind an `ESC` is always there. If the bytes end in the middle
     of an escape, it is the closing `END`, which is no stand-in. So the reader never comes to the end
     of input (`Unwraps.ne_dangling`), and what it reads is empty only if there was nothing to read
     (`Unwraps.ne_nil`).

  3. **The crux (`unwraps_unescape`)** — one induction on the steps of the reader. Each step that goes
     well puts one byte in front of what has been read (`Unwraps.cons`).
-/
namespace CompanionBus.Slip

/-- `Unwraps body result` — the bytes of `body` stand between two `END`s, and unwrapping them gives
    the `result`. -/
inductive Unwraps (body : List UInt8) : Except ProtocolError (List UInt8) → Prop where
  /-- All of them are read. -/
  | whole {frame : List UInt8} (h : body = escape frame) : Unwraps body (.ok frame)
  /-- One of them stands behind an `ESC` and is no stand-in. -/
  | wrong {part after : List UInt8} {b : UInt8} (h : body = escape part ++ ESC :: b :: after)
      (hend : b ≠ ESC_END) (hesc : b ≠ ESC_ESC) : Unwraps body (.error (.invalidEscape b))
  /-- The last one is an `ESC`, and the closing `END` stands behind it. -/
  | unfinished {part : List UInt8} (h : body = escape part ++ [ESC]) :
      Unwraps body (.error (.invalidEscape END))

variable {body : List UInt8} {result : Except ProtocolError (List UInt8)}

/-- One more byte in front, sent as it is or with its stand-in. -/
theorem Unwraps.cons (h : Unwraps body result) (c : UInt8) :
    Unwraps (escape [c] ++ body) (result.map (c :: ·)) := by
  cases h with
  | @whole frame h =>
    rw [h, ← escape_cons]
    exact .whole rfl
  | @wrong part after b h hend hesc =>
    rw [h, ← List.append_assoc, ← escape_cons]
    exact .wrong rfl hend hesc
  | @unfinished part h =>
    rw [h, ← List.append_assoc, ← escape_cons]
    exact .unfinished rfl

/-- **What can become of the bytes** up to a closing `END`. -/
theorem unwraps_unescape (hbody : END ∉ body) : Unwraps body (unescape (body ++ [END])) := by
  -- one case for each step that the reader can take, and for each way in which it can stop
  induction body using unescape.induct with
  | case1 => exact .whole rfl
  | case2 rest => exact absurd List.mem_cons_self hbody
  | case3 _ =>
    -- the closing `END` is taken for a stand-in
    exact .unfinished (show [ESC] = escape [] ++ [ESC] from rfl)
  | case4 rest _ ih =>
    have hrest : END ∉ rest :=
      fun h => hbody (List.mem_cons_of_mem _ (List.mem_cons_of_mem _ h))
    rw [List.cons_append, List.cons_append, unescape_esc_end]
    exact (ih hrest).cons END
  | case5 rest _ _ ih =>
    have hrest : END ∉ rest :=
      fun h => hbody (List.mem_cons_of_mem _ (List.mem_cons_of_mem _ h))
    rw [List.cons_append, List.cons_append, unescape_esc_esc]
    exact (ih hrest).cons ESC
  | case6 b rest hend hesc _ =>
    rw [List.cons_append, List.cons_append, unescape_bad hend hesc]
    exact .wrong (show ESC :: b :: rest = escape [] ++ ESC :: b :: rest from rfl) hend hesc
  | case7 b rest hend hesc ih =>
    have hrest : END ∉ rest := fun h => hbody (List.mem_cons_of_mem _ h)
    have hplain : b :: rest = escape [b] ++ rest := by
      rw [escape_plain hend hesc]
      rfl
    rw [List.cons_append, unescape_plain hend hesc, hplain]
    exact (ih hrest).cons b

/-- Nothing else becomes of them. -/
theorem Unwraps.unescape_eq (h : Unwraps body result) : unescape (body ++ [END]) = result := by
  cases h with
  | @whole frame h => rw [h, unescape_escape]
  | @wrong part after b h hend hesc =>
    rw [h, List.append_assoc, unescape_escape_append, List.cons_append, List.cons_append,
      unescape_bad hend hesc]
    rfl
  | @unfinished part h =>
    rw [h, List.append_assoc, unescape_escape_append, List.singleton_append,
      unescape_bad (by decide) (by decide)]
    rfl

/-- **What unwrapping gives**, for bytes between two `END`s. -/
theorem decode_eq_iff (hbody : END ∉ body) :
    decode (END :: (body ++ [END])) = result ↔ Unwraps body result := by
  rw [decode, if_pos rfl]
  refine ⟨fun h => h ▸ unwraps_unescape hbody, Unwraps.unescape_eq⟩

/-- The reader never comes to the end of input. -/
theorem Unwraps.ne_dangling (h : Unwraps body result) : result ≠ .error .danglingEscape := by
  cases h <;> exact nofun

/-- What is read is not empty, unless there was nothing to read. -/
theorem Unwraps.ne_nil (h : Unwraps body result) (hne : body ≠ []) : result ≠ .ok [] := by
  cases h with
  | @whole frame h =>
    intro hframe
    cases hframe
    exact hne h
  | wrong => exact nofun
  | unfinished => exact nofun

end CompanionBus.Slip
