import ScientificProtocol.Outbound.Address

/-!
# Which addresses are refused

`isPrivateOrSpecialAddress` of `src/shared/outbound-request.ts`. The bytes of an address are compared
with those of the blocks that are refused, bit by bit. So what is answered depends on the address
only (`isPrivateOrSpecialAddress_of_spells`), not on its text: one that maps an IPv4 address is
answered for as that address is, and every block that is not for the public is refused
(`isPrivateOrSpecial_of_special`).
-/

namespace ScientificProtocol.Outbound

open Js BigEndian

/-! ### The answer for a text -/

def hasPrefix (bytes prefixBytes : List ℕ) (bits : ℕ) : Bool :=
  let fullBytes := bits / 8
  let remainingBits := bits % 8
  (List.range fullBytes).all (fun index => bytes[index]? == prefixBytes[index]?) &&
    if remainingBits = 0 then true
    else
      let mask := (0xff <<< (8 - remainingBits)) &&& 0xff
      ((bytes[fullBytes]?.getD 0) &&& mask) == ((prefixBytes[fullBytes]?.getD 0) &&& mask)

def isPrivateOrSpecialIpv4 (ipv4 : List ℕ) : Bool :=
  let a := ipv4[0]?.getD 0
  let b := ipv4[1]?.getD 0
  let c := ipv4[2]?.getD 0
  a == 0 || a == 10 || a == 127 || (a == 100 && 64 ≤ b && b ≤ 127) || (a == 169 && b == 254) ||
    (a == 172 && 16 ≤ b && b ≤ 31) || (a == 192 && b == 0) || (a == 192 && b == 88 && c == 99) ||
    (a == 192 && b == 168) || (a == 198 && (b == 18 || b == 19)) ||
    (a == 198 && b == 51 && c == 100) || (a == 203 && b == 0 && c == 113) || 224 ≤ a

/-- `address.match(/^::ffff:(\d+\.\d+\.\d+\.\d+)$/u)?.[1]` -/
def mappedOf (address : List Char) : Option (List Char) :=
  let rest := address.drop 7
  if address.take 7 = "::ffff:".toList ∧ (rest.splitOn '.').length = 4 ∧
      ∀ part ∈ rest.splitOn '.', part ≠ [] ∧ part.all Char.isDigit then some rest
  else none

/-- The answer for the bytes of an IPv6 address. -/
def isPrivateOrSpecialIpv6 (ipv6 : List ℕ) : Bool :=
  if hasPrefix ipv6 [0, 0, 0, 0, 0, 0, 0, 0, 0, 0, 0xff, 0xff] 96 then
    isPrivateOrSpecialIpv4 (ipv6.drop 12)
  else if !hasPrefix ipv6 [0x20] 3 then true
  else hasPrefix ipv6 [0x20, 0x01, 0x00] 23 || hasPrefix ipv6 [0x20, 0x02] 16 ||
    hasPrefix ipv6 [0x20, 0x01, 0x0d, 0xb8] 32

def isPrivateOrSpecialAddress (isIP : List Char → ℕ) (rawAddress : List Char) : Bool :=
  let address := (normalizeHostname rawAddress).takeWhile (· ≠ '%')
  match parseIpv4 ((mappedOf address).getD address) with
  | some ipv4 => isPrivateOrSpecialIpv4 ipv4
  | none => (parseIpv6 isIP address).elim true isPrivateOrSpecialIpv6

/-! ### Bits of the bytes -/

/-- The bits of a byte that a mask leaves. -/
theorem and_mask {b : ℕ} (hb : b < 256) (r : ℕ) :
    b &&& ((0xff <<< (8 - r)) &&& 0xff) = b / 2 ^ (8 - r) * 2 ^ (8 - r) := by
  have hff : (0xff : ℕ) = 2 ^ 8 - 1 := rfl
  refine Nat.eq_of_testBit_eq fun i => ?_
  rw [← Nat.shiftRight_eq_div_pow, ← Nat.shiftLeft_eq, hff]
  simp only [Nat.testBit_and, Nat.testBit_shiftLeft, Nat.testBit_shiftRight,
    Nat.testBit_two_pow_sub_one]
  by_cases hlow : 8 - r ≤ i
  · rw [Nat.add_sub_cancel' hlow, decide_eq_true hlow, Bool.true_and, Bool.true_and]
    by_cases hhigh : i < 8
    · rw [decide_eq_true hhigh, decide_eq_true (by omega), Bool.and_true, Bool.and_true]
    · have hbit : b.testBit i = false :=
        Nat.testBit_lt_two_pow (hb.trans_le (Nat.pow_le_pow_right Nat.two_pos (not_lt.mp hhigh)))
      rw [hbit, Bool.false_and]
  · rw [decide_eq_false hlow, Bool.false_and, Bool.false_and, Bool.and_false, Bool.false_and]

theorem hasPrefix_cons (b p : ℕ) (bs ps : List ℕ) (bits : ℕ) :
    hasPrefix (b :: bs) (p :: ps) (bits + 8) = (b == p && hasPrefix bs ps bits) := by
  rw [hasPrefix, hasPrefix, Nat.add_div_right bits (by decide), Nat.add_mod_right,
    List.range_succ_eq_map, List.all_cons, List.all_map, Bool.and_assoc]
  rfl

/-- **What is compared** byte by byte and with a mask is the first bits. -/
theorem hasPrefix_iff {bs ps : List ℕ} {bits : ℕ} (hbs : ∀ b ∈ bs, b < 256)
    (hps : ∀ p ∈ ps, p < 256) (hle : bits ≤ 8 * bs.length) (hle' : bits ≤ 8 * ps.length) :
    hasPrefix bs ps bits = true ↔ SamePrefix bs ps bits := by
  induction bs generalizing ps bits with
  | nil =>
    obtain rfl := Nat.le_zero.mp hle
    cases ps <;> exact iff_of_true rfl True.intro
  | cons b bs ih =>
    cases ps with
    | nil =>
      obtain rfl := Nat.le_zero.mp hle'
      exact iff_of_true rfl True.intro
    | cons p ps =>
      obtain ⟨hb, hbs⟩ := List.forall_mem_cons.mp hbs
      obtain ⟨hp, hps⟩ := List.forall_mem_cons.mp hps
      rw [List.length_cons] at hle hle'
      rw [SamePrefix]
      split
      next hlt =>
        rw [hasPrefix, Nat.div_eq_of_lt hlt, Nat.mod_eq_of_lt hlt, List.range_zero, List.all_nil,
          Bool.true_and]
        split
        next hzero =>
          subst hzero
          exact iff_of_true rfl ((Nat.div_eq_of_lt hb).trans (Nat.div_eq_of_lt hp).symm)
        next =>
          simp only [List.getElem?_cons_zero, Option.getD_some, and_mask hb, and_mask hp, beq_iff_eq]
          exact Nat.mul_left_inj (Nat.two_pow_pos _).ne'
      next hge =>
        obtain ⟨rest, rfl⟩ := Nat.exists_eq_add_of_le' (not_lt.mp hge)
        rw [hasPrefix_cons, Bool.and_eq_true, beq_iff_eq, Nat.add_sub_cancel,
          ih hbs hps (by omega) (by omega)]

theorem hasPrefix_digits {address : ℕ} (hlt : address < 2 ^ 128) {ps : List ℕ} {bits : ℕ}
    (hps : ∀ p ∈ ps, p < 256) (hle : bits ≤ 128) (hle' : bits ≤ 8 * ps.length) :
    hasPrefix (digits 256 16 address) ps bits = true ↔
      address / 2 ^ (128 - bits) = value 256 ps / 2 ^ (8 * ps.length - bits) := by
  have hbytes : ∀ b ∈ digits 256 16 address, b < 256 := fun b => lt_of_mem_digits (by decide)
  have hvalue : value 256 (digits 256 16 address) = address :=
    (value_digits 16 address).trans (Nat.mod_eq_of_lt hlt)
  rw [hasPrefix_iff hbytes hps (by rw [length_digits]; exact hle) hle',
    samePrefix_iff hbytes hps (by rw [length_digits]; exact hle) hle', hvalue, length_digits]

/-- The answer for an IPv6 address. -/
def isRefused (address : ℕ) : Bool :=
  if address / 2 ^ 32 = 0xffff then isPrivateOrSpecialIpv4 (digits 256 4 address)
  else if address / 2 ^ 125 ≠ 1 then true
  else decide (address / 2 ^ 105 = 0x100080) || decide (address / 2 ^ 112 = 0x2002) ||
    decide (address / 2 ^ 96 = 0x20010db8)

theorem isPrivateOrSpecialIpv6_digits {address : ℕ} (hlt : address < 2 ^ 128) :
    isPrivateOrSpecialIpv6 (digits 256 16 address) = isRefused address := by
  have hbits : ∀ {ps : List ℕ} {bits block : ℕ}, (∀ p ∈ ps, p < 256) → bits ≤ 128 →
      bits ≤ 8 * ps.length → value 256 ps / 2 ^ (8 * ps.length - bits) = block →
      hasPrefix (digits 256 16 address) ps bits = decide (address / 2 ^ (128 - bits) = block) := by
    intro ps bits block hps hle hle' hblock
    rw [Bool.eq_iff_iff, decide_eq_true_eq, hasPrefix_digits hlt hps hle hle', hblock]
  have hlast : (digits 256 16 address).drop 12 = digits 256 4 address := by
    rw [show 16 = 12 + 4 from rfl, digits_add, List.drop_left' (length_digits _ _)]
  have hmapped := hbits (show ∀ p ∈ [0, 0, 0, 0, 0, 0, 0, 0, 0, 0, 0xff, 0xff], p < 256 by decide)
    (show 96 ≤ 128 by decide) (by decide) (show _ = 0xffff by decide)
  have hunicast := hbits (show ∀ p ∈ [0x20], p < 256 by decide) (show 3 ≤ 128 by decide) (by decide)
    (show _ = 1 by decide)
  have hprotocol := hbits (show ∀ p ∈ [0x20, 0x01, 0x00], p < 256 by decide)
    (show 23 ≤ 128 by decide) (by decide) (show _ = 0x100080 by decide)
  have hrelay := hbits (show ∀ p ∈ [0x20, 0x02], p < 256 by decide) (show 16 ≤ 128 by decide)
    (by decide) (show _ = 0x2002 by decide)
  have hdocumentation := hbits (show ∀ p ∈ [0x20, 0x01, 0x0d, 0xb8], p < 256 by decide)
    (show 32 ≤ 128 by decide) (by decide) (show _ = 0x20010db8 by decide)
  rw [isPrivateOrSpecialIpv6, hmapped, hunicast, hprotocol, hrelay, hdocumentation, hlast, isRefused]
  by_cases haddress : address / 2 ^ 125 = 1 <;> simp

/-! ### The blocks that are refused -/

/-- The blocks of IPv4 addresses that are not for the public, as first bits and their number. -/
def specialIpv4Blocks : List (ℕ × ℕ) := [
  (10, 8), (0xac1, 12), (0xc0a8, 16),  -- private
  (127, 8),  -- loopback
  (0xa9fe, 16),  -- link-local
  (0x191, 10),  -- shared
  (0x6309, 15),  -- benchmarking
  (0xc00002, 24), (0xc63364, 24), (0xcb0071, 24),  -- documentation
  (0xe, 4),  -- multicast
  (0xf, 4)]  -- reserved

/-- The blocks of IPv6 addresses that are not. -/
def specialIpv6Blocks : List (ℕ × ℕ) := [
  (0, 128),  -- unspecified
  (1, 128),  -- loopback
  (0x3fa, 10),  -- link-local
  (0x7e, 7),  -- unique-local
  (0xff, 8),  -- multicast
  (0, 96),  -- IPv4-compatible
  (0x64ff9b0000000000000000, 96),  -- NAT64
  (0x2002, 16),  -- 6to4
  (0x20010000, 32)]  -- Teredo

/-- An IPv4 address is in one of the blocks. -/
def SpecialIpv4 (bits : ℕ) : Prop := ∃ block ∈ specialIpv4Blocks, bits / 2 ^ (32 - block.2) = block.1

/-- **An IPv6 address is in one of the blocks**, or it maps an IPv4 address that is. -/
def Special (address : ℕ) : Prop :=
  (∃ block ∈ specialIpv6Blocks, address / 2 ^ (128 - block.2) = block.1) ∨
    address / 2 ^ 32 = 0xffff ∧ SpecialIpv4 (address % 2 ^ 32)

theorem isPrivateOrSpecialIpv4_of_special {bits : ℕ} (h : SpecialIpv4 bits) :
    isPrivateOrSpecialIpv4 (digits 256 4 bits) = true := by
  have hbytes : digits 256 4 bits =
      [bits / 256 / 256 / 256 % 256, bits / 256 / 256 % 256, bits / 256 % 256, bits % 256] := rfl
  obtain ⟨block, hmem, hblock⟩ := h
  rw [hbytes, isPrivateOrSpecialIpv4]
  simp only [List.getElem?_cons_zero, List.getElem?_cons_succ, Option.getD_some]
  obtain ⟨a, ha⟩ : ∃ a, bits / 256 / 256 / 256 % 256 = a := ⟨_, rfl⟩
  obtain ⟨b, hb⟩ : ∃ b, bits / 256 / 256 % 256 = b := ⟨_, rfl⟩
  obtain ⟨c, hc⟩ : ∃ c, bits / 256 % 256 = c := ⟨_, rfl⟩
  rw [ha, hb, hc]
  simp only [specialIpv4Blocks, List.mem_cons, List.not_mem_nil, or_false] at hmem
  rcases hmem with rfl | rfl | rfl | rfl | rfl | rfl | rfl | rfl | rfl | rfl | rfl | rfl <;>
    simp only [Nat.reduceSub, Nat.reducePow] at hblock
  · simp [show a = 10 by omega]
  · simp [show a = 172 by omega, show 16 ≤ b by omega, show b ≤ 31 by omega]
  · simp [show a = 192 by omega, show b = 168 by omega]
  · simp [show a = 127 by omega]
  · simp [show a = 169 by omega, show b = 254 by omega]
  · simp [show a = 100 by omega, show 64 ≤ b by omega, show b ≤ 127 by omega]
  · simp [show a = 198 by omega, show b = 18 ∨ b = 19 by omega]
  · simp [show a = 192 by omega, show b = 0 by omega]
  · simp [show a = 198 by omega, show b = 51 by omega, show c = 100 by omega]
  · simp [show a = 203 by omega, show b = 0 by omega, show c = 113 by omega]
  · simp [show 224 ≤ a by omega]
  · simp [show 224 ≤ a by omega]

/-- **Every such address is refused.** -/
theorem isRefused_of_special {address : ℕ} (h : Special address) :
    isRefused address = true := by
  rw [isRefused]
  rcases h with ⟨block, hmem, hblock⟩ | ⟨hmapped, hspecial⟩
  · have hnot : address / 2 ^ 32 ≠ 0xffff := by
      simp only [specialIpv6Blocks, List.mem_cons, List.not_mem_nil, or_false] at hmem
      rcases hmem with rfl | rfl | rfl | rfl | rfl | rfl | rfl | rfl | rfl <;>
        simp only [Nat.reduceSub, Nat.reducePow] at hblock ⊢ <;> omega
    rw [if_neg hnot]
    by_cases hunicast : address / 2 ^ 125 = 1
    · rw [if_neg (not_not.mpr hunicast), Bool.or_eq_true, Bool.or_eq_true, decide_eq_true_eq,
        decide_eq_true_eq, decide_eq_true_eq]
      simp only [specialIpv6Blocks, List.mem_cons, List.not_mem_nil, or_false] at hmem
      rcases hmem with rfl | rfl | rfl | rfl | rfl | rfl | rfl | rfl | rfl <;>
        simp only [Nat.reduceSub, Nat.reducePow] at hblock hunicast ⊢ <;> omega
    · rw [if_pos hunicast]
  · rw [if_pos hmapped, ← digits_mod]
    exact isPrivateOrSpecialIpv4_of_special hspecial

/-! ### The address in a text -/

theorem getLast_strip {c : Char} (hc : c ≠ '%') (low zone : List Char) :
    ∃ zone', (if (low ++ '%' :: zone).getLast? = some c then (low ++ '%' :: zone).dropLast
      else low ++ '%' :: zone) = low ++ '%' :: zone' := by
  split
  next hlast =>
    rcases List.eq_nil_or_concat zone with rfl | ⟨zone', c', rfl⟩
    · rw [List.getLast?_append, List.getLast?_singleton, Option.some_or, Option.some.injEq] at hlast
      exact absurd hlast.symm hc
    · refine ⟨zone', ?_⟩
      rw [List.concat_eq_append, ← List.cons_append, ← List.append_assoc, List.dropLast_concat]
  next => exact ⟨zone, rfl⟩

theorem getLast?_intercalate {sep : Char} {css : List (List Char)} {cs : List Char} (h : cs ≠ []) :
    ([sep].intercalate (css ++ [cs])).getLast? = cs.getLast? := by
  induction css with
  | nil => rw [List.nil_append, List.intercalate_singleton]
  | cons cs' css ih =>
    obtain ⟨cs'', tail, hcons⟩ : ∃ cs'' tail, css ++ [cs] = cs'' :: tail :=
      List.exists_cons_of_ne_nil (List.append_ne_nil_of_right_ne_nil _ (List.cons_ne_nil _ _))
    rw [List.cons_append, hcons, List.intercalate_cons_cons, List.getLast?_append, ← hcons, ih,
      List.getLast?_eq_some_getLast h, Option.some_or]

theorem quad_concat (bits : ℕ) : quad bits = ['.'].intercalate
    ((digits 256 3 (bits / 256)).map (Nat.toDigits 10) ++ [Nat.toDigits 10 (bits % 256)]) := by
  rw [quad, digits, List.map_append, List.map_singleton]

theorem getLast?_quad_ne (bits : ℕ) : (quad bits).getLast? ≠ some '.' := by
  rw [quad_concat, getLast?_intercalate Nat.toDigits_ne_nil]
  exact fun hlast => absurd (Nat.isDigit_of_mem_toDigits (by decide) (by decide)
    (List.mem_of_getLast? hlast)) (by decide)

theorem Pieces.getLast?_ne {gs : List ℕ} {css : List (List Char)} (h : Pieces gs css) :
    ([':'].intercalate css).getLast? ≠ some '.' := by
  have hlast : ∀ cs ∈ css, cs.getLast? ≠ some '.' := by
    have hnotMem : ∀ {cs : List Char}, '.' ∉ cs → cs.getLast? ≠ some '.' := fun hcs hdot =>
      hcs (List.mem_of_getLast? hdot)
    induction h with
    | nil => exact fun cs hcs => absurd hcs List.not_mem_nil
    | group h _ ih =>
      refine List.forall_mem_cons.mpr ⟨hnotMem fun hdot => ?_, ih⟩
      obtain ⟨d, hd, -⟩ := h.1.2 _ hdot
      rw [show digitOf '.' = none by decide] at hd
      cases hd
    | quad _ => exact List.forall_mem_singleton.mpr (getLast?_quad_ne _)
  rcases List.eq_nil_or_concat css with rfl | ⟨css', cs, rfl⟩
  · exact fun hnone => nomatch hnone
  · rw [List.concat_eq_append] at h hlast ⊢
    have hmem : cs ∈ css' ++ [cs] := List.mem_append_right _ (List.mem_singleton_self _)
    rw [getLast?_intercalate (h.of_mem cs hmem).1]
    exact hlast cs hmem

/-- **A text does not end with a dot**: the last byte of a dotted quad is a numeral. -/
theorem Spells.getLast?_ne {address : ℕ} {cs : List Char} (h : Spells address cs) :
    cs.getLast? ≠ some '.' := by
  cases h with
  | full h => exact h.getLast?_ne
  | @compressed left right lefts rights hleft hright =>
    have hlast := hright.getLast?_ne
    rcases List.eq_nil_or_concat ([':'].intercalate rights) with hnil | ⟨cs, c, hconcat⟩
    · rw [hnil, List.getLast?_append]
      exact fun heq => absurd (Option.some.inj heq) (by decide)
    · rw [hconcat, List.concat_eq_append] at hlast ⊢
      rw [← List.cons_append, ← List.cons_append, ← List.append_assoc, List.getLast?_concat]
      rwa [List.getLast?_concat] at hlast

/-- **The address of a text is what stands before the zone**, in lower case. -/
theorem SpellsZoned.address {address : ℕ} {text : List Char} (h : SpellsZoned address text) :
    ∃ cs, Spells address cs ∧
      (normalizeHostname text).takeWhile (· ≠ '%') = cs.map Char.toLower := by
  cases h with
  | bare h =>
    refine ⟨_, h, ?_⟩
    have hopen : '[' ∉ text.map Char.toLower :=
      h.toLower.notMem (by decide) (by decide) (by decide)
    have hclose : ']' ∉ text.map Char.toLower :=
      h.toLower.notMem (by decide) (by decide) (by decide)
    rw [normalizeHostname]
    simp only [if_neg h.toLower.getLast?_ne]
    rw [if_neg fun hhead => hopen (List.mem_of_head? hhead),
      if_neg fun hlast => hclose (List.mem_of_getLast? hlast),
      List.takeWhile_eq_self_iff.mpr h.noZone]
  | @zoned cs h zone =>
    refine ⟨_, h, ?_⟩
    have hopen : '[' ∉ cs.map Char.toLower := h.toLower.notMem (by decide) (by decide) (by decide)
    have hhead : ∀ rest, (cs.map Char.toLower ++ '%' :: rest).head? ≠ some '[' := by
      intro rest hhead
      cases hcs : cs.map Char.toLower with
      | nil =>
        rw [hcs] at hhead
        exact absurd (Option.some.inj hhead) (by decide)
      | cons c low =>
        rw [hcs] at hhead hopen
        exact hopen (Option.some.inj hhead ▸ List.mem_cons_self)
    obtain ⟨undotted, hundotted⟩ := getLast_strip (show '.' ≠ '%' by decide)
      (cs.map Char.toLower) (zone.map Char.toLower)
    obtain ⟨unbracketed, hunbracketed⟩ := getLast_strip (show ']' ≠ '%' by decide)
      (cs.map Char.toLower) undotted
    have hpercent : Char.toLower '%' = '%' := by decide
    simp only [normalizeHostname, List.map_append, List.map_cons, hpercent, hundotted,
      if_neg (hhead undotted), hunbracketed]
    rw [List.takeWhile_append_of_pos h.noZone, List.takeWhile_cons_of_neg (by decide),
      List.append_nil]

/-! ### The answer depends on the address only -/

theorem mappedOf_eq_some {text rest : List Char} (h : mappedOf text = some rest) :
    text = "::ffff:".toList ++ rest ∧ (rest.splitOn '.').length = 4 ∧
      ∀ part ∈ rest.splitOn '.', part.all Char.isDigit = true := by
  rw [mappedOf] at h
  split at h
  next hcond =>
    obtain rfl := Option.some.inj h
    refine ⟨?_, hcond.2.1, fun part hpart => (hcond.2.2 part hpart).2⟩
    rw [← hcond.1, List.take_append_drop]
  next => cases h

theorem length_parseIpv4 {cs : List Char} {ipv4 : List ℕ} (h : parseIpv4 cs = some ipv4) :
    ∃ a b c d, ipv4 = [a, b, c, d] ∧ a < 256 ∧ b < 256 ∧ c < 256 ∧ d < 256 := by
  rw [parseIpv4] at h
  split at h
  next hparts =>
    obtain rfl := Option.some.inj h
    obtain ⟨hlength, hbytes⟩ := hparts
    have hbyte : ∀ {x n}, byteOf x = some n → n < 256 := by
      intro x n hx
      cases x with
      | finite q =>
        rw [byteOf] at hx
        split at hx
        next hq =>
          obtain rfl := Option.some.inj hx
          have hnum : (q.num : ℚ) = q := Rat.coe_int_num_of_den_eq_one hq.1
          have hlt : (q.num : ℚ) < 256 := hnum.symm ▸ hq.2.2
          have hlt' : q.num < 256 := by exact_mod_cast hlt
          have hnonneg : 0 ≤ q.num := Rat.num_nonneg.mpr hq.2.1
          omega
        next => cases hx
      | _ => cases hx
    generalize (cs.splitOn '.').map number = parts at hlength hbytes
    rcases parts with _ | ⟨w, _ | ⟨x, _ | ⟨y, _ | ⟨z, _ | _⟩⟩⟩⟩ <;> try cases hlength
    simp only [List.mem_cons, List.not_mem_nil, or_false, forall_eq_or_imp, forall_eq,
      Option.isSome_iff_exists] at hbytes
    obtain ⟨⟨a, ha⟩, ⟨b, hb⟩, ⟨c, hc⟩, d, hd⟩ := hbytes
    refine ⟨a, b, c, d, ?_, hbyte ha, hbyte hb, hbyte hc, hbyte hd⟩
    simp [ha, hb, hc, hd]
  next => cases h

/-- Of a text with a dotted quad after `::ffff:` the quad is read. -/
theorem parseIpv4_of_mappedOf {isIP : List Char → ℕ} {text rest : List Char} {bytes : List ℕ}
    (hplain : (text.map Char.toLower).takeWhile (· ≠ '%') = text)
    (hmapped : mappedOf text = some rest) (hbytes : parseIpv6 isIP text = some bytes) :
    ∃ ipv4, parseIpv4 rest = some ipv4 ∧ bytes = List.replicate 10 0 ++ [0xff, 0xff] ++ ipv4 := by
  obtain ⟨htext, hlength, hdigits⟩ := mappedOf_eq_some hmapped
  have hcolon : ':' ∉ rest := by
    intro hmem
    have hjoin : ['.'].intercalate (rest.splitOn '.') = rest := List.intercalate_splitOn '.'
    rw [← hjoin] at hmem
    rcases mem_intercalate hmem with hdot | ⟨part, hpart, hmem⟩
    · exact absurd hdot (by decide)
    · exact absurd (List.all_eq_true.mp (hdigits part hpart) _ hmem) (by decide)
  have hdot : '.' ∈ rest := by
    by_contra hdot
    rw [List.splitOn_eq_singleton hdot, List.length_singleton] at hlength
    exact absurd hlength (by decide)
  have hne : rest ≠ [] := List.ne_nil_of_mem hdot
  have hpart : "ffff:".toList ++ rest = [':'].intercalate ["ffff".toList, rest] := by
    rw [List.intercalate_cons_cons, List.intercalate_singleton]
    rfl
  have hpieces : ∀ cs ∈ ["ffff".toList, rest], cs ≠ [] ∧ ':' ∉ cs :=
    List.forall_mem_cons.mpr ⟨by decide, List.forall_mem_singleton.mpr ⟨hne, hcolon⟩⟩
  have hhalves : splitDouble text = [[], "ffff:".toList ++ rest] := by
    have hsplit := splitDouble_intercalate hpieces []
    rw [← hpart, List.append_nil, splitDouble, List.modifyHead_cons, List.append_nil] at hsplit
    rw [htext]
    exact congrArg (List.cons []) hsplit
  have hgroup : parseGroup "ffff".toList = some [0xffff] := by
    rw [parseGroup, parseIpv4_of_notMem (by decide)]
    decide
  have hright : parseGroups ("ffff:".toList ++ rest) =
      (parseGroup rest).map fun groups => 0xffff :: groups := by
    rw [parseGroups, if_neg (List.append_ne_nil_of_right_ne_nil _ hne), hpart,
      List.splitOn_intercalate ':' (fun cs hcs => (hpieces cs hcs).2) (List.cons_ne_nil _ _),
      List.mapM_cons, hgroup, List.mapM_cons, List.mapM_nil]
    cases parseGroup rest <;> simp
  have hleft : parseGroups [] = some [] := rfl
  generalize "ffff:".toList ++ rest = half at hhalves hright hpart
  rw [parseIpv6] at hbytes
  simp only [hplain, hhalves, List.getElem?_cons_zero, List.getElem?_cons_succ, Option.getD_some,
    hleft] at hbytes
  split at hbytes
  · cases hbytes
  · cases hipv4 : parseIpv4 rest with
    | none =>
      -- It would be a group of hexadecimals, but has dots.
      have hnone : parseGroup rest = none := by
        rw [parseGroup, hipv4]
        refine if_neg fun hcond => ?_
        exact absurd (List.all_eq_true.mp hcond.2.2 _ hdot) (by decide)
      rw [hnone, Option.map_none] at hright
      simp [hright] at hbytes
    | some ipv4 =>
      obtain ⟨a, b, c, d, rfl, ha, hb, hc, hd⟩ := length_parseIpv4 hipv4
      refine ⟨_, rfl, ?_⟩
      have hsome : parseGroup rest = some [a * 256 + b, c * 256 + d] := by
        rw [parseGroup, hipv4]
        simp only [List.getElem?_cons_zero, List.getElem?_cons_succ, Option.getD_some,
          shiftLeft_or hb, shiftLeft_or hd]
      rw [hsome, Option.map_some] at hright
      simp only [hright] at hbytes
      have hbytes' : some ([0, 0, 0, 0, 0, 0xffff, a * 256 + b, c * 256 + d].flatMap
          fun group => [group >>> 8, group &&& 0xff]) = some bytes := hbytes
      have hhigh : ∀ x y : ℕ, y < 256 → (x * 256 + y) >>> 8 = x ∧ (x * 256 + y) &&& 0xff = y := by
        intro x y hy
        rw [Nat.shiftRight_eq_div_pow, show (0xff : ℕ) = 2 ^ 8 - 1 from rfl,
          Nat.and_two_pow_sub_one_eq_mod]
        omega
      rw [← Option.some.inj hbytes']
      simp only [List.flatMap_cons, List.flatMap_nil, (hhigh a b hb).1, (hhigh a b hb).2,
        (hhigh c d hd).1, (hhigh c d hd).2]
      rfl

/-- There is a colon in a text: eight groups have seven. -/
theorem Spells.colon_mem {address : ℕ} {cs : List Char} (h : Spells address cs) : ':' ∈ cs := by
  cases h with
  | full h =>
    have hlength : (digits 65536 8 address).length = 8 := length_digits 8 address
    generalize digits 65536 8 address = gs at h hlength
    rename_i css
    rcases css with _ | ⟨cs, _ | ⟨cs', css⟩⟩
    · cases h
      cases hlength
    · cases h with
      | group _ h =>
        cases h
        cases hlength
      | quad => cases hlength
    · rw [List.intercalate_cons_cons]
      exact List.mem_append_left _ (List.mem_append_right _ (List.mem_singleton_self _))
  | compressed => exact List.mem_append_right _ List.mem_cons_self

theorem toLower_toLower (c : Char) : c.toLower.toLower = c.toLower := by
  rcases toLower_cases c with ⟨hsame, -⟩ | ⟨k, hk, -, hlower⟩
  · rw [hsame, hsame]
  · have hidle : ∀ k < 26, (Char.ofNat (97 + k)).toLower = Char.ofNat (97 + k) := by decide
    rw [hlower, hidle k hk]

theorem quad_notMem {c : Char} (hdigit : c.isDigit = false) (hdot : c ≠ '.') (bits : ℕ) :
    c ∉ quad bits := fun hc =>
  (isDigit_of_mem_quad hc).elim (fun h => absurd (h.symm.trans hdigit) (by decide)) hdot

/-- **The answer for an IPv4 address.** -/
theorem isPrivateOrSpecialAddress_quad (isIP : List Char → ℕ) (bits : ℕ) :
    isPrivateOrSpecialAddress isIP (quad bits) = isPrivateOrSpecialIpv4 (digits 256 4 bits) := by
  have hopen : (quad bits).head? ≠ some '[' := fun hhead =>
    quad_notMem (by decide) (by decide) bits (List.mem_of_head? hhead)
  have hclose : (quad bits).getLast? ≠ some ']' := fun hlast =>
    quad_notMem (by decide) (by decide) bits (List.mem_of_getLast? hlast)
  have hzone : (quad bits).takeWhile (· ≠ '%') = quad bits :=
    List.takeWhile_eq_self_iff.mpr fun c hc => decide_eq_true fun heq =>
      quad_notMem (by decide) (by decide) bits (heq ▸ hc)
  have hmapped : mappedOf (quad bits) = none := by
    refine if_neg fun hcond => ?_
    have hmem : ':' ∈ (quad bits).take 7 := by
      rw [hcond.1]
      exact List.mem_cons_self
    exact quad_notMem (by decide) (by decide) bits (List.mem_of_mem_take hmem)
  rw [isPrivateOrSpecialAddress, normalizeHostname]
  simp only [toLower_quad, if_neg (getLast?_quad_ne bits), if_neg hopen, if_neg hclose, hzone, hmapped,
    Option.getD_none, parseIpv4_quad]

/-- **What is answered for a text is what is answered for its address.** -/
theorem isPrivateOrSpecialAddress_of_spells (net : Net) {address : ℕ} {text : List Char}
    (hlt : address < 2 ^ 128) (h : SpellsZoned address text) :
    isPrivateOrSpecialAddress net.isIP text = isRefused address := by
  obtain ⟨cs, hspells, haddress⟩ := h.address
  have hlower := hspells.toLower
  have hread := parseIpv6_of_spells net hlt (.bare hlower)
  rw [isPrivateOrSpecialAddress]
  simp only [haddress]
  cases hmapped : mappedOf (cs.map Char.toLower) with
  | none =>
    have hcolon := hlower.colon_mem
    rw [Option.getD_none, parseIpv4_of_colon hcolon]
    simp only [hread, Option.elim_some]
    exact isPrivateOrSpecialIpv6_digits hlt
  | some rest =>
    have hplain : ((cs.map Char.toLower).map Char.toLower).takeWhile (· ≠ '%') =
        cs.map Char.toLower := by
      have hsame : (cs.map Char.toLower).map Char.toLower = cs.map Char.toLower := by
        rw [List.map_map]
        exact List.map_congr_left fun c _ => toLower_toLower c
      rw [hsame]
      exact List.takeWhile_eq_self_iff.mpr fun c hc => decide_eq_true fun heq =>
        hlower.notMem (by decide) (by decide) (by decide) (heq ▸ hc)
    obtain ⟨ipv4, hipv4, hbytes⟩ := parseIpv4_of_mappedOf hplain hmapped hread
    have hdigits : digits 256 12 (address / 2 ^ 32) ++ digits 256 4 address =
        (List.replicate 10 0 ++ [0xff, 0xff]) ++ ipv4 := by
      rw [← hbytes]
      exact (digits_add 12 4 address).symm
    obtain ⟨hfirst, hlast⟩ := List.append_inj hdigits (length_digits _ _)
    have hvalue : address / 2 ^ 32 = 0xffff := by
      have hmod : value 256 (digits 256 12 (address / 2 ^ 32)) = _ := value_digits 12 _
      rw [hfirst, Nat.mod_eq_of_lt (by omega)] at hmod
      exact hmod.symm
    rw [Option.getD_some, hipv4, isRefused, if_pos hvalue, hlast]

/-- **What is answered for an address does not depend on how it is written.** For every text of an
IPv6 address its bytes are read; two texts of one address have the same answer; one that maps an
IPv4 address has the answer for that address; and an address of a block that is not for the public
is refused. -/
theorem isPrivateOrSpecialAddress_spelling (net : Net) :
    (∀ address < 2 ^ 128, ∀ text, SpellsZoned address text →
      parseIpv6 net.isIP text = some (digits 256 16 address)) ∧
    (∀ address < 2 ^ 128, ∀ text text', SpellsZoned address text → SpellsZoned address text' →
      isPrivateOrSpecialAddress net.isIP text = isPrivateOrSpecialAddress net.isIP text') ∧
    (∀ bits < 2 ^ 32, ∀ text, SpellsZoned (0xffff * 2 ^ 32 + bits) text →
      isPrivateOrSpecialAddress net.isIP text = isPrivateOrSpecialAddress net.isIP (quad bits)) ∧
    (∀ address < 2 ^ 128, Special address → ∀ text, SpellsZoned address text →
      isPrivateOrSpecialAddress net.isIP text = true) := by
  refine ⟨fun address hlt text h => parseIpv6_of_spells net hlt h,
    fun address hlt text text' h h' => ?_, fun bits hlt text h => ?_,
    fun address hlt hspecial text h => ?_⟩
  · rw [isPrivateOrSpecialAddress_of_spells net hlt h,
      isPrivateOrSpecialAddress_of_spells net hlt h']
  · have hdigits : digits 256 4 (0xffff * 2 ^ 32 + bits) = digits 256 4 bits := by
      rw [← digits_mod, ← digits_mod 4 bits]
      exact congrArg _ (by omega)
    rw [isPrivateOrSpecialAddress_of_spells net (by omega) h, isRefused, if_pos (by omega), hdigits,
      isPrivateOrSpecialAddress_quad]
  · rw [isPrivateOrSpecialAddress_of_spells net hlt h, isRefused_of_special hspecial]

open Classical in
/-- It accepts the texts of addresses, and no zones. -/
noncomputable def Net.exact : Net where
  isIP cs := if ∃ bits < 2 ^ 32, cs = quad bits then 4
    else if ∃ address < 2 ^ 128, Spells address cs then 6 else 0
  isIP_values cs := by
    split
    · exact .inr (.inl rfl)
    · split
      · exact .inr (.inr rfl)
      · exact .inl rfl
  isIP_eq_four cs := by
    by_cases hquad : ∃ bits < 2 ^ 32, cs = quad bits
    · rw [if_pos hquad]
      exact iff_of_true rfl hquad
    · rw [if_neg hquad]
      refine iff_of_false (fun h => ?_) hquad
      split at h <;> exact absurd h (by decide)
  isIP_eq_six cs _ := by
    by_cases hquad : ∃ bits < 2 ^ 32, cs = quad bits
    · obtain ⟨bits, -, rfl⟩ := id hquad
      rw [if_pos hquad]
      refine iff_of_false (by decide) ?_
      rintro ⟨address, -, hspells⟩
      exact quad_notMem (by decide) (by decide) bits hspells.colon_mem
    · rw [if_neg hquad]
      split
      next h => exact iff_of_true rfl h
      next h => exact iff_of_false (by decide) h

/-- `127.0.0.1` in hexadecimals. -/
theorem spells_mappedLoopback : Spells 0xffff7f000001 "::ffff:7f00:1".toList := by
  have hgroups : Pieces [0xffff, 0x7f00, 1] ["ffff".toList, "7f00".toList, "1".toList] :=
    .group ⟨by decide, by decide, by decide⟩ (.group ⟨by decide, by decide, by decide⟩
      (.group ⟨by decide, by decide, by decide⟩ .nil))
  exact .compressed .nil hgroups (by decide) (by decide)

theorem isPrivateOrSpecialAddress_mappedLoopback :
    isPrivateOrSpecialAddress Net.exact.isIP "::ffff:7f00:1%lo0".toList = true :=
  (isPrivateOrSpecialAddress_spelling .exact).2.2.2 0xffff7f000001 (by decide)
    (.inr ⟨by decide, (127, 8), by decide, by decide⟩) _ (.zoned spells_mappedLoopback "lo0".toList)

end ScientificProtocol.Outbound
