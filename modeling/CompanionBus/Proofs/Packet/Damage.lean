import CompanionBus.Proofs.Checksum.Detection
import CompanionBus.Proofs.Packet.Grammar
import CompanionBus.Proofs.Slip.Damage
/-
  Damaged frames are refused.

  1. **Specification** — let `p.frame` be a frame that is sent. What is left of it after it has been
     mangled on the way is not read (`not_decode_of_mangled`). If one byte of it has been replaced,
     it is not read either, unless 0x00 and 0xFF have changed places behind the descriptors
     (`swap_of_decode_replaced`): there the checksum is blind.

  2. **Mangled frames** — a frame that has got longer or shorter still says its old length, unless
     the damage was in the length or in front of it. There it runs into the bytes that stand in
     every frame: service and command are small or known, and so is the high byte of the length,
     since a frame that is sent is not that long. None of them has a stand-in or is one.

  3. **Replaced bytes** — the checksum leaves 0x00 and 0xFF only. Neither is a service or a command,
     the length is checked by itself, and the one descriptor that is 0x00 describes nothing, while
     0xFF is none.
-/
namespace CompanionBus

/-! ## Bytes that stand in every frame -/

/-- The two bytes of a command. -/
theorem Command.toNat_code_cases (c : Command) :
    (c.service.code.toNat = 0x45 ∨ c.service.code.toNat = 0xFD) ∧
      0 < c.code.toNat ∧ c.code.toNat < 8 := by
  cases c <;> decide

theorem LittleEndian.decode_two (low high : UInt8) :
    decode [low, high] = low.toNat + 256 * high.toNat := by
  simp [decode]

namespace Descriptor

theorem ne_zero_of_mem_codes {widths : List Width} : ∀ c ∈ codes widths, c ≠ 0 := by
  fun_induction codes widths with
  | case8 => intro c hc; cases hc
  | _ =>
    rename_i ih
    intro c hc
    rcases List.mem_cons.mp hc with rfl | hc
    · decide
    · exact ih c hc

/-- An entry that announces another one is not 0x00, and has not all bits set. -/
theorem more_ne {c : UInt8} (h : c < 8) : c ||| moreBit ≠ 0 ∧ c ||| moreBit ≠ 0xFF := by
  have key : ∀ n < 8, UInt8.ofNat n ||| moreBit ≠ 0 ∧ UInt8.ofNat n ||| moreBit ≠ 0xFF := by
    decide
  have hc := key c.toNat (UInt8.lt_iff_toNat_lt.mp h)
  rwa [UInt8.ofNat_toNat] at hc

theorem ne_of_mem_link {d : UInt8} :
    ∀ {cs : List UInt8}, cs ≠ [] → (∀ c ∈ cs, c ≠ 0 ∧ c < 8) → d ∈ link cs → d ≠ 0 ∧ d ≠ 0xFF
  | [], hne, _, _ => absurd rfl hne
  | [c], _, hcs, hd => by
    obtain ⟨hzero, hlt⟩ := hcs c List.mem_cons_self
    rw [link, List.mem_singleton] at hd
    subst hd
    refine ⟨hzero, fun hff => ?_⟩
    rw [hff] at hlt
    exact absurd hlt (by decide)
  | c :: c' :: cs, _, hcs, hd => by
    rw [link] at hd
    · rcases List.mem_cons.mp hd with rfl | hd
      · exact more_ne (hcs c List.mem_cons_self).2
      · exact ne_of_mem_link (List.cons_ne_nil c' cs)
          (fun e he => hcs e (List.mem_cons_of_mem c he)) hd
    · exact fun h => nomatch h

/-- Only the chain that describes nothing has a descriptor 0x00, and none has 0xFF. -/
theorem ne_of_mem_chain {widths : List Width} {d : UInt8} (h : d ∈ chain widths) :
    chain widths = [0] ∨ (d ≠ 0 ∧ d ≠ 0xFF) := by
  rw [chain] at h ⊢
  by_cases hnil : codes widths = []
  · exact Or.inl (by rw [hnil, link])
  · exact Or.inr (ne_of_mem_link hnil
      (fun c hc => ⟨ne_zero_of_mem_codes c hc, lt_of_mem_codes c hc⟩) h)

end Descriptor

namespace Packet

variable {p q : Packet} {f₁ f₂ g : List UInt8} {b c : UInt8}

/-- The frame of a packet byte by byte, as far as the body, with what its length bytes say. -/
theorem exists_frame_eq (hsize : p.size ≤ maxFrame) :
    ∃ low high checksum, p.frame =
        p.command.service.code :: p.command.code :: low :: high :: checksum :: p.body ∧
      low.toNat + 256 * high.toNat = p.size := by
  refine ⟨UInt8.ofNat p.size, UInt8.ofNat (p.size / 256), Checksum.frameSum (p.frameWith 0), rfl, ?_⟩
  rw [← LittleEndian.decode_two]
  exact decode_length_frameWith 0 hsize

/-! ## One byte replaced -/

/-- The header shows a replaced byte by itself: 0x00 and 0xFF are no service and no command, and the
    length is known. -/
theorem header_le_of_decode_replaced (hsize : p.size ≤ maxFrame) (hframe : p.frame = f₁ ++ b :: f₂)
    (hne : b ≠ c) (hplace : f₁.length ≠ Checksum.position) (hbyte : b.toNat = 0 ∨ b.toNat = 0xFF)
    (h : decode (f₁ ++ c :: f₂) = .ok q) : 5 ≤ f₁.length := by
  have hcommand := p.command.toNat_code_cases
  obtain ⟨low, high, checksum, hheader, hlow⟩ := exists_frame_eq hsize
  obtain ⟨low', high', checksum', rest, hg, hlength, -, -⟩ := decode_eq_ok h
  have hlen : (f₁ ++ c :: f₂).length = p.size := by
    rw [← length_frame, hframe, List.length_append, List.length_append]
    rfl
  rw [LittleEndian.decode_two, hlen] at hlength
  rw [hheader] at hframe
  rcases f₁ with _ | ⟨x₀, _ | ⟨x₁, _ | ⟨x₂, _ | ⟨x₃, _ | ⟨x₄, f₁⟩⟩⟩⟩⟩
  · -- the service
    simp only [List.nil_append, List.cons.injEq] at hframe
    rw [← hframe.1] at hbyte
    omega
  · -- the command
    simp only [List.cons_append, List.nil_append, List.cons.injEq] at hframe
    rw [← hframe.2.1] at hbyte
    omega
  · -- the low byte of the length
    simp only [List.cons_append, List.nil_append, List.cons.injEq] at hframe hg
    obtain ⟨-, -, rfl, rfl, -⟩ := hframe
    obtain ⟨-, -, rfl, rfl, -⟩ := hg
    exact absurd (UInt8.toNat_inj.mp (by omega)) hne
  · -- the high byte of the length
    simp only [List.cons_append, List.nil_append, List.cons.injEq] at hframe hg
    obtain ⟨-, -, rfl, rfl, -⟩ := hframe
    obtain ⟨-, -, rfl, rfl, -⟩ := hg
    exact absurd (UInt8.toNat_inj.mp (by omega)) hne
  · exact absurd rfl hplace
  · show 5 ≤ f₁.length + 5
    omega

/-- What stands in the body within the length of the descriptors is one of them. -/
theorem exists_descriptors_eq (hbody : p.body = f₁ ++ b :: f₂)
    (hlt : f₁.length < p.descriptors.length) : ∃ rest, p.descriptors = f₁ ++ b :: rest := by
  rw [body, List.append_assoc] at hbody
  rcases List.append_eq_append_iff.mp hbody with ⟨inside, hinside, -⟩ | ⟨inside, hinside, hbehind⟩
  · rw [hinside, List.length_append] at hlt
    omega
  · cases inside with
    | nil =>
      rw [hinside, List.append_nil] at hlt
      omega
    | cons d inside =>
      rw [List.cons_append, List.cons.injEq] at hbehind
      obtain ⟨rfl, -⟩ := hbehind
      exact ⟨inside, hinside⟩

/-- Among the descriptors 0x00 and 0xFF do not change places: only the one that describes nothing is
    0x00, and 0xFF is none. -/
theorem descriptors_le_of_ofBody_replaced {total : Nat} {command : Command}
    (hbody : p.body = f₁ ++ b :: f₂) (hswap : (b = 0 ∧ c = 0xFF) ∨ (b = 0xFF ∧ c = 0))
    (h : ofBody command total (f₁ ++ c :: f₂) = .ok q) : p.descriptors.length ≤ f₁.length := by
  rcases Nat.lt_or_ge f₁.length p.descriptors.length with hlt | hge
  · obtain ⟨rest, hinside⟩ := exists_descriptors_eq hbody hlt
    have hmem : b ∈ p.descriptors := by
      rw [hinside]
      exact List.mem_append_right _ List.mem_cons_self
    rcases Descriptor.ne_of_mem_chain hmem with hnone | ⟨hzero, hff⟩
    · rw [descriptors, hnone] at hinside
      cases f₁ with
      | nil =>
        cases hinside
        rcases hswap with ⟨-, rfl⟩ | ⟨hff, -⟩
        · cases h
        · cases hff
      | cons x f₁ => cases f₁ <;> cases hinside
    · rcases hswap with ⟨rfl, -⟩ | ⟨rfl, -⟩
      · exact absurd rfl hzero
      · exact absurd rfl hff
  · exact hge

/-- **A replaced byte shows**, unless it is 0x00 or 0xFF behind the descriptors, and the other of the
    two has come in its place. -/
theorem swap_of_decode_replaced (hsize : p.size ≤ maxFrame) (hframe : p.frame = f₁ ++ b :: f₂)
    (hne : b ≠ c) (h : decode (f₁ ++ c :: f₂) = .ok q) :
    ((b = 0 ∧ c = 0xFF) ∨ (b = 0xFF ∧ c = 0)) ∧ 5 + p.descriptors.length ≤ f₁.length := by
  have hverify := verify_frame p
  rw [hframe] at hverify
  obtain ⟨hplace, hswap⟩ := Checksum.swap_of_verify hverify (verify_of_decode h) hne
  refine ⟨hswap, ?_⟩
  have hbyte : b.toNat = 0 ∨ b.toNat = 0xFF := by
    rcases hswap with ⟨rfl, -⟩ | ⟨rfl, -⟩
    · exact Or.inl rfl
    · exact Or.inr rfl
  have hfive := header_le_of_decode_replaced hsize hframe hne hplace hbyte h
  obtain ⟨low, high, checksum, hheader, -⟩ := exists_frame_eq hsize
  obtain ⟨low', high', checksum', rest, hg, -, -, hbody⟩ := decode_eq_ok h
  -- behind the header the frame is the body
  rcases f₁ with _ | ⟨x₀, _ | ⟨x₁, _ | ⟨x₂, _ | ⟨x₃, _ | ⟨x₄, f₁⟩⟩⟩⟩⟩
  case cons.cons.cons.cons.cons =>
    rw [hheader] at hframe
    simp only [List.cons_append, List.cons.injEq] at hframe hg
    rw [← hg.2.2.2.2.2] at hbody
    have hle := descriptors_le_of_ofBody_replaced hframe.2.2.2.2.2 hswap hbody
    show 5 + p.descriptors.length ≤ f₁.length + 5
    omega
  all_goals simp at hfive

/-! ## Mangled frames -/

/-- A frame that begins like `p.frame`, as far as the length at least, has to be as long. -/
theorem length_eq_of_common_front {front rest rest' : List UInt8} (hsize : p.size ≤ maxFrame)
    (hfront : 4 ≤ front.length) (hframe : p.frame = front ++ rest)
    (h : decode (front ++ rest') = .ok q) : rest'.length = rest.length := by
  obtain ⟨low, high, checksum, hheader, hlow⟩ := exists_frame_eq hsize
  obtain ⟨low', high', checksum', behind, hg, hlength, -, -⟩ := decode_eq_ok h
  have hlen := length_frame p
  rw [LittleEndian.decode_two] at hlength
  rw [hframe] at hheader hlen
  rcases front with _ | ⟨x₀, _ | ⟨x₁, _ | ⟨x₂, _ | ⟨x₃, front⟩⟩⟩⟩
  case cons.cons.cons.cons =>
    simp only [List.cons_append, List.cons.injEq] at hheader hg
    obtain ⟨-, -, rfl, rfl, -⟩ := hheader
    obtain ⟨-, -, rfl, rfl, -⟩ := hg
    rw [List.length_append] at hlen hlength
    omega
  all_goals simp at hfront

/-- **A mangled frame is not read.** -/
theorem not_decode_of_mangled (hsize : p.size ≤ maxFrame) (hmangled : Slip.Mangled p.frame g) :
    decode g ≠ .ok q := by
  intro h
  have hmax : maxFrame = 1024 := rfl
  have hcommand := p.command.toNat_code_cases
  have hcommand' := q.command.toNat_code_cases
  obtain ⟨low, high, checksum, hheader, hlow⟩ := exists_frame_eq hsize
  obtain ⟨low', high', checksum', rest, hg, hlength, -, -⟩ := decode_eq_ok h
  have hlen := length_frame p
  rw [LittleEndian.decode_two] at hlength
  generalize hframe : p.frame = f at hmangled
  rw [hframe] at hheader hlen
  -- in each case, where in the frame the damage is
  cases hmangled with
  | exchanged f₁ f₂ hc hd hne =>
    have hbytes := hc.toNat_eq
    rcases (swap_of_decode_replaced hsize hframe hne.symm h).1 with ⟨rfl, -⟩ | ⟨rfl, -⟩
    · simp at hbytes
    · simp at hbytes
  | merged f₁ f₂ hd =>
    have hstandIn := hd.le_standIn
    have hbytes := hd.toNat_eq
    simp only [List.length_append, List.length_cons] at hlen hlength
    rcases f₁ with _ | ⟨x₀, _ | ⟨x₁, _ | ⟨x₂, _ | ⟨x₃, f₁⟩⟩⟩⟩
    case cons.cons.cons.cons =>
      have hsame := length_eq_of_common_front hsize (by simp) hframe h
      simp at hsame
    all_goals simp only [List.cons_append, List.nil_append, List.cons.injEq] at hheader hg
    · rw [hheader.2.1] at hstandIn
      omega
    · rw [hg.2.1] at hbytes
      omega
    · rw [hheader.2.2.2.1] at hstandIn
      omega
    · rw [hg.2.2.2.1] at hbytes
      simp only [List.length_cons, List.length_nil] at hlength hlen
      omega
  | split f₁ f₂ hc =>
    have hstandIn := hc.le_standIn
    have hbytes := hc.toNat_eq
    simp only [List.length_append, List.length_cons] at hlen hlength
    rcases f₁ with _ | ⟨x₀, _ | ⟨x₁, _ | ⟨x₂, _ | ⟨x₃, f₁⟩⟩⟩⟩
    case cons.cons.cons.cons =>
      have hsame := length_eq_of_common_front hsize (by simp) hframe h
      simp at hsame
    all_goals simp only [List.cons_append, List.nil_append, List.cons.injEq] at hheader hg
    · rw [hheader.1] at hbytes
      omega
    · rw [hheader.2.1] at hbytes
      omega
    · rw [hg.2.2.2.1] at hstandIn
      simp only [List.length_cons, List.length_nil] at hlength hlen
      omega
    · rw [hheader.2.2.2.1] at hbytes
      omega
  | cut f₁ f₂ =>
    have hfour : 4 ≤ g.length := by
      rw [hg]
      simp
    rw [← List.append_nil g] at h
    have hsame := length_eq_of_common_front hsize hfour hframe h
    simp at hsame
  | beheaded f =>
    rw [hg, List.cons.injEq, List.cons.injEq] at hheader
    rw [← hheader.2.1] at hcommand
    omega
  | bared f hc =>
    have hbytes := hc.toNat_eq
    rw [List.cons.injEq] at hheader
    rw [hheader.1] at hbytes
    omega

/-- A device that answers with the time 0, and the same frame with the highest byte of the time
    replaced: the checksum does not tell them apart. -/
example :
    decode [0x45, 0x01, 0x13, 0x00, 0x5B, 0x01, 0, 0x01, 0, 0, 0, 0, 0, 0, 0, 0, 0, 0, 0]
        = .ok (ofStatus .clockGet .ok [1, 0, 0, 0, 0, 0, 0, 0, 0, 0, 0, 0]) ∧
      decode [0x45, 0x01, 0x13, 0x00, 0x5B, 0x01, 0, 0x01, 0, 0, 0, 0, 0, 0, 0, 0, 0, 0, 0xFF]
        = .ok (ofStatus .clockGet .ok [1, 0, 0, 0, 0, 0, 0, 0, 0, 0, 0, 0xFF]) := ⟨rfl, rfl⟩

end Packet

end CompanionBus
