import ScientificProtocol.Js.Number
import ScientificProtocol.Order.BigEndian

/-!
# Addresses and their texts

`parseIpv4` and `parseIpv6` of `src/shared/outbound-request.ts`. The text of an IPv6 address has
eight groups of hexadecimals, or fewer with `::` for groups that are zero, and the last two groups
may be a dotted quad; after it there may be a zone. Whether a text is an address at all is asked of
node; the bytes are read here, and are those of the address whatever its text
(`parseIpv6_of_spells`).
-/

namespace ScientificProtocol.Outbound

open Js BigEndian

/-! ### Reading a text -/

/-- In lower case, without a dot at the end and without brackets. -/
def normalizeHostname (hostname : List Char) : List Char :=
  let lower := hostname.map Char.toLower
  let undotted := if lower.getLast? = some '.' then lower.dropLast else lower
  let opened := if undotted.head? = some '[' then undotted.tail else undotted
  if opened.getLast? = some ']' then opened.dropLast else opened

/-- `Number.isInteger(part) && part >= 0 && part < 256` -/
def byteOf : Double → Option ℕ
  | .finite q => if q.den = 1 ∧ 0 ≤ q ∧ q < 256 then some q.num.toNat else none
  | _ => none

def parseIpv4 (address : List Char) : Option (List ℕ) :=
  let parts := (address.splitOn '.').map number
  if parts.length = 4 ∧ ∀ part ∈ parts, (byteOf part).isSome then some (parts.filterMap byteOf)
  else none

/-- `text.split("::")` -/
def splitDouble : List Char → List (List Char)
  | [] => [[]]
  | ':' :: ':' :: cs => [] :: splitDouble cs
  | c :: cs => (splitDouble cs).modifyHead (c :: ·)

/-- `[0-9a-f]` -/
def isLowerHex (c : Char) : Bool := c.isDigit || ('a' ≤ c && c ≤ 'f')

/-- A dotted quad is two groups. -/
def parseGroup (rawGroup : List Char) : Option (List ℕ) :=
  match parseIpv4 rawGroup with
  | some dotted =>
    let byte := fun i => dotted[i]?.getD 0
    some [byte 0 <<< 8 ||| byte 1, byte 2 <<< 8 ||| byte 3]
  | none =>
    if 1 ≤ rawGroup.length ∧ rawGroup.length ≤ 4 ∧ rawGroup.all isLowerHex then
      some [parseInt 16 rawGroup]
    else none

def parseGroups (part : List Char) : Option (List ℕ) :=
  if part = [] then some [] else ((part.splitOn ':').mapM parseGroup).map List.flatten

section

variable (isIP : List Char → ℕ)

def parseIpv6 (address : List Char) : Option (List ℕ) :=
  let normalized := (address.map Char.toLower).takeWhile (· ≠ '%')
  if isIP normalized ≠ 6 then none
  else
    let halves := splitDouble normalized
    if 2 < halves.length then none
    else
      match parseGroups (halves[0]?.getD []), parseGroups (halves[1]?.getD []) with
      | some left, some right =>
        let omitted : ℤ := 8 - left.length - right.length
        if halves.length = 1 ∧ omitted ≠ 0 ∨ halves.length = 2 ∧ omitted < 1 then none
        else
          let groups := left ++ List.replicate omitted.toNat 0 ++ right
          if groups.length ≠ 8 then none
          else some (groups.flatMap fun group => [group >>> 8, group &&& 0xff])
      | _, _ => none

end

/-! ### The texts of an address -/

/-- Up to four hexadecimals, in upper or lower case, with zeros before them or not. -/
def SpellsGroup (group : ℕ) (cs : List Char) : Prop :=
  AreDigits 16 cs ∧ cs.length ≤ 4 ∧ parseInt 16 cs = group

/-- The dotted quad of 32 bits. -/
def quad (bits : ℕ) : List Char := ['.'].intercalate ((digits 256 4 bits).map (Nat.toDigits 10))

/-- Groups and their texts. The last two may be a dotted quad. -/
inductive Pieces : List ℕ → List (List Char) → Prop where
  | nil : Pieces [] []
  | group {g : ℕ} {cs : List Char} {gs : List ℕ} {css : List (List Char)} (h : SpellsGroup g cs)
      (hs : Pieces gs css) : Pieces (g :: gs) (cs :: css)
  | quad {bits : ℕ} (h : bits < 2 ^ 32) : Pieces [bits / 65536, bits % 65536] [quad bits]

/-- **The texts of an IPv6 address**: all eight groups, or `::` for one or more that are zero. -/
inductive Spells (address : ℕ) : List Char → Prop where
  | full {css : List (List Char)} (h : Pieces (digits 65536 8 address) css) :
      Spells address ([':'].intercalate css)
  | compressed {left right : List ℕ} {lefts rights : List (List Char)}
      (hleft : List.Forall₂ SpellsGroup left lefts) (hright : Pieces right rights)
      (hlt : left.length + right.length < 8)
      (hgroups : digits 65536 8 address =
        left ++ List.replicate (8 - left.length - right.length) 0 ++ right) :
      Spells address ([':'].intercalate lefts ++ ':' :: ':' :: [':'].intercalate rights)

/-- There may be a zone after it. -/
inductive SpellsZoned (address : ℕ) : List Char → Prop where
  | bare {cs : List Char} (h : Spells address cs) : SpellsZoned address cs
  | zoned {cs : List Char} (h : Spells address cs) (zone : List Char) :
      SpellsZoned address (cs ++ '%' :: zone)

/-- `isIP` of `node:net` **accepts the texts of addresses**. Which zones it accepts is left open. -/
structure Net where
  isIP : List Char → ℕ
  isIP_values : ∀ cs, isIP cs = 0 ∨ isIP cs = 4 ∨ isIP cs = 6
  isIP_eq_four : ∀ cs, isIP cs = 4 ↔ ∃ bits < 2 ^ 32, cs = quad bits
  isIP_eq_six : ∀ cs, '%' ∉ cs → (isIP cs = 6 ↔ ∃ address < 2 ^ 128, Spells address cs)

/-! ### In lower case -/

/-- The texts that are written in lower case, and without a zone. -/
def IsPlain (cs : List Char) : Prop := ∀ c ∈ cs, isLowerHex c = true ∨ c = ':' ∨ c = '.'

theorem toLower_cases (c : Char) : (c.toLower = c ∧ (c.toNat < 65 ∨ 90 < c.toNat)) ∨
    ∃ k < 26, c = Char.ofNat (65 + k) ∧ c.toLower = Char.ofNat (97 + k) := by
  by_cases h : 65 ≤ c.toNat ∧ c.toNat ≤ 90
  · right
    obtain ⟨k, hk⟩ := Nat.exists_eq_add_of_le h.1
    have hc : c = Char.ofNat (65 + k) := by rw [← hk, Char.ofNat_toNat]
    have hlt : k < 26 := by omega
    have hlower : ∀ k < 26, (Char.ofNat (65 + k)).toLower = Char.ofNat (97 + k) := by decide
    exact ⟨k, hlt, hc, hc ▸ hlower k hlt⟩
  · left
    exact ⟨dif_neg h, by omega⟩

theorem digitOf_toLower (c : Char) : digitOf c.toLower = digitOf c := by
  rcases toLower_cases c with ⟨h, -⟩ | ⟨k, hk, hc, hlower⟩
  · rw [h]
  · have hdigit : ∀ k < 26, digitOf (Char.ofNat (97 + k)) = digitOf (Char.ofNat (65 + k)) := by
      decide
    rw [hlower, hdigit k hk, ← hc]

/-- A hexadecimal, in lower case. -/
theorem isLowerHex_toLower {c : Char} {d : ℕ} (h : d ∈ digitOf c) : isLowerHex c.toLower = true := by
  have hhex : ∀ k < 26, (digitOf (Char.ofNat (65 + k))).isSome = true →
      isLowerHex (Char.ofNat (97 + k)) = true := by decide
  rcases toLower_cases c with ⟨hsame, hupper⟩ | ⟨k, hk, hc, hlower⟩
  · rw [hsame, isLowerHex, Bool.or_eq_true, Bool.and_eq_true, decide_eq_true_eq, decide_eq_true_eq]
    unfold digitOf at h
    split at h
    next hdigit => exact .inl hdigit
    next =>
      split at h
      next hlower => exact .inr hlower
      next =>
        split at h
        next hbetween =>
          have hlow : 65 ≤ c.toNat := hbetween.1
          have hhigh : c.toNat ≤ 70 := hbetween.2
          omega
        next => cases h
  · rw [hlower]
    exact hhex k hk (hc ▸ Option.isSome_of_mem h)

/-- It is neither a colon, nor a dot, nor a percent sign. -/
theorem isLowerHex_of_ne {c : Char} (h : isLowerHex c = false) {cs : List Char}
    (hcs : ∀ c' ∈ cs, isLowerHex c' = true) : c ∉ cs := fun hmem =>
  absurd ((hcs c hmem).symm.trans h) (by decide)

theorem isLowerHex_of_isDigit {c : Char} (h : c.isDigit = true) : isLowerHex c = true := by
  rw [isLowerHex, h, Bool.true_or]

theorem toLower_of_isLowerHex {c : Char} (h : isLowerHex c = true) : c.toLower = c := by
  rcases toLower_cases c with ⟨hsame, -⟩ | ⟨k, hk, hc, -⟩
  · exact hsame
  · have hnot : ∀ k < 26, isLowerHex (Char.ofNat (65 + k)) = false := by decide
    exact absurd (h.symm.trans (hc ▸ hnot k hk)) (by decide)

theorem SpellsGroup.toLower {g : ℕ} {cs : List Char} (h : SpellsGroup g cs) :
    SpellsGroup g (cs.map Char.toLower) := by
  obtain ⟨⟨hne, hdigits⟩, hlength, hvalue⟩ := h
  refine ⟨⟨fun hnil => hne (List.map_eq_nil_iff.mp hnil), List.forall_mem_map.mpr fun c hc => ?_⟩,
    by rwa [List.length_map], ?_⟩
  · rw [digitOf_toLower]
    exact hdigits c hc
  · rw [← hvalue, parseInt, parseInt, List.foldl_map]
    simp only [digitOf_toLower]

/-! ### The characters of a text -/

theorem SpellsGroup.isLowerHex {g : ℕ} {cs : List Char} (h : SpellsGroup g cs) :
    ∀ c ∈ cs.map Char.toLower, isLowerHex c = true :=
  List.forall_mem_map.mpr fun c hc => by
    obtain ⟨d, hd, -⟩ := h.1.2 c hc
    exact isLowerHex_toLower hd

theorem mem_intercalate {sep c : Char} {css : List (List Char)} (h : c ∈ [sep].intercalate css) :
    c = sep ∨ ∃ cs ∈ css, c ∈ cs := by
  induction css with
  | nil => cases h
  | cons cs css ih =>
    cases css with
    | nil => exact .inr ⟨cs, List.mem_cons_self, by simpa using h⟩
    | cons cs' css =>
      rw [List.intercalate_cons_cons, List.mem_append, List.mem_append, List.mem_singleton] at h
      rcases h with (h | h) | h
      · exact .inr ⟨cs, List.mem_cons_self, h⟩
      · exact .inl h
      · rcases ih h with h | ⟨cs'', hmem, hc⟩
        · exact .inl h
        · exact .inr ⟨cs'', List.mem_cons_of_mem _ hmem, hc⟩

theorem isDigit_of_mem_quad {bits : ℕ} {c : Char} (h : c ∈ quad bits) :
    c.isDigit = true ∨ c = '.' := by
  rcases mem_intercalate h with hc | ⟨cs, hmem, hc⟩
  · exact .inr hc
  · obtain ⟨d, -, rfl⟩ := List.mem_map.mp hmem
    exact .inl (Nat.isDigit_of_mem_toDigits (by decide) (by decide) hc)

theorem toLower_quad (bits : ℕ) : (quad bits).map Char.toLower = quad bits := by
  refine (List.map_congr_left fun c hc => ?_).trans (List.map_id _)
  rcases isDigit_of_mem_quad hc with hdigit | rfl
  · exact toLower_of_isLowerHex (isLowerHex_of_isDigit hdigit)
  · decide

theorem quad_ne_nil (bits : ℕ) : quad bits ≠ [] := by
  have hdigits : digits 256 4 bits =
      [bits / 256 / 256 / 256 % 256, bits / 256 / 256 % 256, bits / 256 % 256, bits % 256] := rfl
  rw [quad, hdigits, List.map_cons, List.map_cons, List.intercalate_cons_cons]
  exact List.append_ne_nil_of_right_ne_nil _ (by simp)

/-- **The pieces of a text** have hexadecimals, and dots. -/
theorem Pieces.of_mem {gs : List ℕ} {css : List (List Char)} (h : Pieces gs css) :
    ∀ cs ∈ css, cs ≠ [] ∧ ∀ c ∈ cs, (∃ d, d ∈ digitOf c) ∨ c = '.' := by
  induction h with
  | nil => exact fun cs hcs => absurd hcs List.not_mem_nil
  | group h _ ih =>
    refine List.forall_mem_cons.mpr ⟨⟨h.1.1, fun c hc => .inl ?_⟩, ih⟩
    obtain ⟨d, hd, -⟩ := h.1.2 c hc
    exact ⟨d, hd⟩
  | quad h =>
    refine List.forall_mem_singleton.mpr ⟨quad_ne_nil _, fun c hc => ?_⟩
    refine (isDigit_of_mem_quad hc).imp_left fun hdigit => ⟨c.toNat - 48, ?_⟩
    rw [digitOf, if_pos hdigit]
    rfl

theorem pieces_of_forall₂ {gs : List ℕ} {css : List (List Char)}
    (h : List.Forall₂ SpellsGroup gs css) : Pieces gs css := by
  induction h with
  | nil => exact .nil
  | cons h _ ih => exact .group h ih

theorem Pieces.toLower {gs : List ℕ} {css : List (List Char)} (h : Pieces gs css) :
    Pieces gs (css.map (·.map Char.toLower)) := by
  induction h with
  | nil => exact .nil
  | group h _ ih => exact .group h.toLower ih
  | quad h =>
    rw [List.map_singleton, toLower_quad]
    exact .quad h

theorem map_toLower_intercalate (css : List (List Char)) :
    ([':'].intercalate css).map Char.toLower = [':'].intercalate (css.map (·.map Char.toLower)) := by
  induction css with
  | nil => rfl
  | cons cs css ih =>
    cases css with
    | nil => simp
    | cons cs' css =>
      rw [List.intercalate_cons_cons, List.map_append, List.map_append, ih]
      simp only [List.map_cons, List.map_nil, List.intercalate_cons_cons]
      rfl

/-- **A text in lower case is a text of the same address.** -/
theorem Spells.toLower {address : ℕ} {cs : List Char} (h : Spells address cs) :
    Spells address (cs.map Char.toLower) := by
  cases h with
  | full h =>
    rw [map_toLower_intercalate]
    exact .full h.toLower
  | compressed hleft hright hlt hgroups =>
    rw [List.map_append, List.map_cons, List.map_cons, map_toLower_intercalate,
      map_toLower_intercalate]
    refine .compressed ?_ hright.toLower hlt hgroups
    exact List.forall₂_map_right_iff.mpr (hleft.imp fun _ _ h => h.toLower)

theorem Spells.of_mem {address : ℕ} {cs : List Char} (h : Spells address cs) :
    ∀ c ∈ cs, (∃ d, d ∈ digitOf c) ∨ c = ':' ∨ c = '.' := by
  have hpieces : ∀ {gs css}, Pieces gs css → ∀ c ∈ [':'].intercalate css,
      (∃ d, d ∈ digitOf c) ∨ c = ':' ∨ c = '.' := by
    intro gs css h c hc
    rcases mem_intercalate hc with rfl | ⟨cs, hcs, hc⟩
    · exact .inr (.inl rfl)
    · exact ((h.of_mem cs hcs).2 c hc).imp_right .inr
  cases h with
  | full h => exact hpieces h
  | compressed hleft hright =>
    intro c hc
    rcases List.mem_append.mp hc with hc | hc
    · exact hpieces (pieces_of_forall₂ hleft) c hc
    · rcases List.mem_cons.mp hc with rfl | hc
      · exact .inr (.inl rfl)
      · rcases List.mem_cons.mp hc with rfl | hc
        · exact .inr (.inl rfl)
        · exact hpieces hright c hc

/-- What is no hexadecimal, no colon and no dot is not in a text. -/
theorem Spells.notMem {address : ℕ} {cs : List Char} (h : Spells address cs) {c : Char}
    (hdigit : digitOf c = none) (hcolon : c ≠ ':') (hdot : c ≠ '.') : c ∉ cs := by
  intro hc
  rcases h.of_mem c hc with ⟨d, hd⟩ | hc | hc
  · rw [hdigit] at hd
    cases hd
  · exact hcolon hc
  · exact hdot hc

/-- So there is no zone before the one that comes after it. -/
theorem Spells.noZone {address : ℕ} {cs : List Char} (h : Spells address cs) :
    ∀ c ∈ cs.map Char.toLower, decide (c ≠ '%') = true := by
  intro c hc
  have hzone : '%' ∉ cs.map Char.toLower :=
    h.toLower.notMem (by decide) (by decide) (by decide)
  exact decide_eq_true fun heq => hzone (heq ▸ hc)

/-! ### Splitting -/

theorem splitDouble_cons {c : Char} (h : c ≠ ':') (cs : List Char) :
    splitDouble (c :: cs) = (splitDouble cs).modifyHead (c :: ·) := by
  rw [splitDouble]
  rintro cs' rfl
  exact fun _ => h rfl

theorem splitDouble_colon {c : Char} (h : c ≠ ':') (cs : List Char) :
    splitDouble (':' :: c :: cs) = (splitDouble (c :: cs)).modifyHead (':' :: ·) := by
  rw [splitDouble]
  rintro cs' - hcs
  exact h (List.cons.inj hcs).1

theorem splitDouble_append {piece : List Char} (h : ':' ∉ piece) (rest : List Char) :
    splitDouble (piece ++ rest) = (splitDouble rest).modifyHead (piece ++ ·) := by
  induction piece with
  | nil =>
    cases hsplit : splitDouble rest with
    | nil => rw [List.nil_append, hsplit]; rfl
    | cons half halves => rw [List.nil_append, hsplit]; rfl
  | cons c piece ih =>
    obtain ⟨hc, hpiece⟩ := not_or.mp (mt List.mem_cons.mpr h)
    rw [List.cons_append, splitDouble_cons (Ne.symm hc), ih hpiece, List.modifyHead_modifyHead]
    rfl

/-- **Pieces are not split**: between two of them there is one colon. -/
theorem splitDouble_intercalate {css : List (List Char)} (h : ∀ cs ∈ css, cs ≠ [] ∧ ':' ∉ cs)
    (rest : List Char) :
    splitDouble ([':'].intercalate css ++ rest) =
      (splitDouble rest).modifyHead ([':'].intercalate css ++ ·) := by
  induction css with
  | nil => exact splitDouble_append List.not_mem_nil rest
  | cons cs css ih =>
    obtain ⟨⟨-, hcolon⟩, hcss⟩ := List.forall_mem_cons.mp h
    cases css with
    | nil => rw [List.intercalate_singleton]; exact splitDouble_append hcolon rest
    | cons cs' css =>
      obtain ⟨c, cs'', rfl⟩ := List.exists_cons_of_ne_nil (hcss cs' List.mem_cons_self).1
      have hc : c ≠ ':' := fun heq => (hcss _ List.mem_cons_self).2 (heq ▸ List.mem_cons_self)
      obtain ⟨tail, htail⟩ : ∃ tail, [':'].intercalate ((c :: cs'') :: css) = c :: tail := by
        cases css with
        | nil => exact ⟨cs'', List.intercalate_singleton⟩
        | cons cs''' css => exact ⟨_, List.intercalate_cons_cons⟩
      rw [List.intercalate_cons_cons, List.append_assoc, List.append_assoc, List.singleton_append,
        splitDouble_append hcolon]
      have hrest := ih hcss
      rw [htail, List.cons_append] at hrest ⊢
      rw [splitDouble_colon hc, hrest, List.modifyHead_modifyHead, List.modifyHead_modifyHead]
      exact congrArg (List.modifyHead · _) (funext fun half => by simp)

/-! ### Reading the pieces -/

theorem byteOf_natCast {n : ℕ} : byteOf (.finite n) = if n < 256 then some n else none := by
  rw [byteOf]
  have hcond : ((n : ℚ).den = 1 ∧ (0 : ℚ) ≤ n ∧ (n : ℚ) < 256) ↔ n < 256 := by
    rw [Rat.den_natCast, and_iff_right rfl, and_iff_right (Nat.cast_nonneg n)]
    exact_mod_cast Iff.rfl
  simp only [hcond, Rat.num_natCast, Int.toNat_natCast]

/-- A text without a dot is no dotted quad. -/
theorem parseIpv4_of_notMem {cs : List Char} (h : '.' ∉ cs) : parseIpv4 cs = none := by
  rw [parseIpv4, List.splitOn_eq_singleton h]
  exact if_neg fun hparts => absurd hparts.1 (by simp)

/-- Nor is one with a colon. -/
theorem parseIpv4_of_colon {cs : List Char} (h : ':' ∈ cs) : parseIpv4 cs = none := by
  rw [parseIpv4]
  refine if_neg fun hparts => ?_
  have hjoin : ['.'].intercalate (cs.splitOn '.') = cs := List.intercalate_splitOn '.'
  rw [← hjoin] at h
  rcases mem_intercalate h with hdot | ⟨part, hpart, hmem⟩
  · exact absurd hdot (by decide)
  · have hbyte := hparts.2 _ (List.mem_map_of_mem hpart)
    rw [number_eq_nan hmem] at hbyte
    exact absurd hbyte (by decide)

/-- **A dotted quad is four bytes.** -/
theorem parseIpv4_quad (bits : ℕ) : parseIpv4 (quad bits) = some (digits 256 4 bits) := by
  have hsplit : (quad bits).splitOn '.' = (digits 256 4 bits).map (Nat.toDigits 10) := by
    refine List.splitOn_intercalate '.' ?_ ?_
    · refine List.forall_mem_map.mpr fun d _ hdot => ?_
      exact absurd (Nat.isDigit_of_mem_toDigits (by decide) (by decide) hdot) (by decide)
    · rw [Ne, List.map_eq_nil_iff, ← List.length_eq_zero_iff, length_digits]
      decide
  have hbyte : ∀ d ∈ digits 256 4 bits, byteOf (number (Nat.toDigits 10 d)) = some d := by
    intro d hd
    have hlt : d < 256 := lt_of_mem_digits (by decide) hd
    rw [number_toDigits (hlt.trans (by decide)), byteOf_natCast, if_pos hlt]
  have hfilter : ∀ l : List ℕ, (∀ d ∈ l, byteOf (number (Nat.toDigits 10 d)) = some d) →
      ((l.map (Nat.toDigits 10)).map number).filterMap byteOf = l := by
    intro l hl
    induction l with
    | nil => rfl
    | cons d l ih =>
      obtain ⟨hd, hl⟩ := List.forall_mem_cons.mp hl
      rw [List.map_cons, List.map_cons, List.filterMap_cons_some hd, ih hl]
  rw [parseIpv4, hsplit, if_pos, hfilter _ hbyte]
  refine ⟨by rw [List.length_map, List.length_map, length_digits], ?_⟩
  refine List.forall_mem_map.mpr (List.forall_mem_map.mpr fun d hd => ?_)
  rw [hbyte d hd]
  rfl

theorem SpellsGroup.lt {g : ℕ} {cs : List Char} (h : SpellsGroup g cs) : g < 65536 := by
  obtain ⟨⟨-, hdigits⟩, hlength, rfl⟩ := h
  have hvalue : ∀ (l : List Char) (n : ℕ), (∀ c ∈ l, ∃ d ∈ digitOf c, d < 16) →
      l.foldl (fun n c => 16 * n + (digitOf c).getD 0) n < 16 ^ l.length * (n + 1) := by
    intro l
    induction l with
    | nil => intro n _; simp
    | cons c l ih =>
      intro n hl
      obtain ⟨⟨d, hd, hlt⟩, hl⟩ := List.forall_mem_cons.mp hl
      rw [List.foldl_cons, List.length_cons, hd, Option.getD_some]
      refine (ih _ hl).trans_le ?_
      rw [pow_succ, Nat.mul_assoc]
      exact Nat.mul_le_mul_left _ (by omega)
  have hlt := hvalue cs 0 hdigits
  rw [zero_add, Nat.mul_one] at hlt
  exact hlt.trans_le (Nat.pow_le_pow_right (by decide) hlength)

theorem parseGroup_of_spells {g : ℕ} {cs : List Char} (h : SpellsGroup g cs) :
    parseGroup (cs.map Char.toLower) = some [g] := by
  obtain ⟨⟨hne, -⟩, hlength, hvalue⟩ := h.toLower
  have hdot : '.' ∉ cs.map Char.toLower := isLowerHex_of_ne (by decide) h.isLowerHex
  rw [parseGroup, parseIpv4_of_notMem hdot]
  simp only
  rw [if_pos ⟨List.length_pos_of_ne_nil hne, hlength, List.all_eq_true.mpr h.isLowerHex⟩, hvalue]

theorem shiftLeft_or {a b : ℕ} (h : b < 256) : a <<< 8 ||| b = a * 256 + b := by
  rw [← Nat.shiftLeft_add_eq_or_of_lt (i := 8) h, Nat.shiftLeft_eq]

theorem parseGroup_quad {bits : ℕ} (h : bits < 2 ^ 32) :
    parseGroup (quad bits) = some [bits / 65536, bits % 65536] := by
  rw [parseGroup, parseIpv4_quad]
  change some [(bits / 256 / 256 / 256 % 256) <<< 8 ||| bits / 256 / 256 % 256,
    (bits / 256 % 256) <<< 8 ||| bits % 256] = _
  rw [shiftLeft_or (Nat.mod_lt _ (by decide)), shiftLeft_or (Nat.mod_lt _ (by decide)),
    Option.some.injEq, List.cons.injEq, List.cons.injEq]
  exact ⟨by omega, by omega, rfl⟩

/-- **The pieces of a text, in lower case, are read as the groups.** -/
theorem parseGroups_pieces {gs : List ℕ} {css : List (List Char)} (h : Pieces gs css) :
    parseGroups ([':'].intercalate (css.map (·.map Char.toLower))) = some gs := by
  have hread : ((css.map (·.map Char.toLower)).mapM parseGroup).map List.flatten = some gs := by
    induction h with
    | nil => rfl
    | group h _ ih =>
      obtain ⟨groups, hgroups, rfl⟩ := Option.map_eq_some_iff.mp ih
      rw [List.map_cons, List.mapM_cons, parseGroup_of_spells h, hgroups]
      rfl
    | quad h =>
      rw [List.map_singleton, toLower_quad, List.mapM_cons, parseGroup_quad h]
      rfl
  by_cases hnil : css = []
  · subst hnil
    cases h
    rfl
  · have hpieces := h.toLower.of_mem
    have hne : css.map (·.map Char.toLower) ≠ [] := fun hmap => hnil (List.map_eq_nil_iff.mp hmap)
    have hsplit : ([':'].intercalate (css.map (·.map Char.toLower))).splitOn ':' =
        css.map (·.map Char.toLower) := by
      refine List.splitOn_intercalate ':' (fun cs hcs hcolon => ?_) hne
      rcases (hpieces cs hcs).2 ':' hcolon with ⟨d, hd⟩ | hdot
      · rw [show digitOf ':' = none by decide] at hd
        cases hd
      · exact absurd hdot (by decide)
    have hpart : [':'].intercalate (css.map (·.map Char.toLower)) ≠ [] := by
      intro hpart
      rw [hpart] at hsplit
      have hmem : ([] : List Char) ∈ css.map (·.map Char.toLower) := by
        rw [← hsplit]
        exact List.mem_singleton_self _
      exact (hpieces [] hmem).1 rfl
    rw [parseGroups, if_neg hpart, hsplit, hread]

/-! ### Reading an address -/

theorem SpellsZoned.normalized {address : ℕ} {text : List Char} (h : SpellsZoned address text) :
    ∃ cs, Spells address cs ∧
      (text.map Char.toLower).takeWhile (· ≠ '%') = cs.map Char.toLower := by
  cases h with
  | bare h => exact ⟨_, h, List.takeWhile_eq_self_iff.mpr h.noZone⟩
  | zoned h zone =>
    refine ⟨_, h, ?_⟩
    rw [List.map_append, List.map_cons, List.takeWhile_append_of_pos h.noZone,
      List.takeWhile_cons_of_neg (by decide), List.append_nil]

/-- The groups that are found are those of the address. -/
theorem parseIpv6_of_groups {isIP : List Char → ℕ} {text normalized : List Char}
    {halves : List (List Char)} {left right : List ℕ} {address : ℕ} (omitted : ℕ)
    (hnormalized : (text.map Char.toLower).takeWhile (· ≠ '%') = normalized)
    (hisIP : isIP normalized = 6) (hhalves : splitDouble normalized = halves)
    (hlength : halves.length = 1 ∧ omitted = 0 ∨ halves.length = 2 ∧ 1 ≤ omitted)
    (hleft : parseGroups (halves[0]?.getD []) = some left)
    (hright : parseGroups (halves[1]?.getD []) = some right)
    (hgroups : digits 65536 8 address = left ++ List.replicate omitted 0 ++ right) :
    parseIpv6 isIP text = some (digits 256 16 address) := by
  have height : left.length + omitted + right.length = 8 := by
    have := congrArg List.length hgroups
    rw [length_digits, List.length_append, List.length_append, List.length_replicate] at this
    exact this.symm
  have homitted : (8 - left.length - right.length : ℤ) = omitted := by omega
  have hflat : (fun group : ℕ => [group >>> 8, group &&& 0xff]) =
      fun group => [group / 256, group % 256] := by
    funext group
    rw [Nat.shiftRight_eq_div_pow, show (0xff : ℕ) = 2 ^ 8 - 1 from rfl,
      Nat.and_two_pow_sub_one_eq_mod]
  rw [parseIpv6]
  simp only [hnormalized, hisIP, hhalves, hleft, hright, homitted, Int.toNat_natCast, ← hgroups,
    length_digits, ne_eq, not_true_eq_false, if_false, hflat]
  rw [if_neg (by omega), if_neg (by omega)]
  exact congrArg some (flatMap_digits 256 8 address)

/-- **Whatever its text, an address is read as its bytes.** -/
theorem parseIpv6_of_spells (net : Net) {address : ℕ} {text : List Char} (hlt : address < 2 ^ 128)
    (h : SpellsZoned address text) : parseIpv6 net.isIP text = some (digits 256 16 address) := by
  obtain ⟨cs, hspells, hnormalized⟩ := h.normalized
  have hzone : '%' ∉ cs.map Char.toLower :=
    hspells.toLower.notMem (by decide) (by decide) (by decide)
  have hisIP : net.isIP (cs.map Char.toLower) = 6 :=
    (net.isIP_eq_six _ hzone).mpr ⟨address, hlt, hspells.toLower⟩
  have hpieces : ∀ {gs css}, Pieces gs css →
      ∀ cs ∈ css.map (·.map Char.toLower), cs ≠ [] ∧ ':' ∉ cs := by
    intro gs css h cs hcs
    refine ⟨(h.toLower.of_mem cs hcs).1, fun hcolon => ?_⟩
    rcases (h.toLower.of_mem cs hcs).2 ':' hcolon with ⟨d, hd⟩ | hdot
    · rw [show digitOf ':' = none by decide] at hd
      cases hd
    · exact absurd hdot (by decide)
  have hwhole : ∀ {gs css}, Pieces gs css →
      splitDouble ([':'].intercalate (css.map (·.map Char.toLower))) =
        [[':'].intercalate (css.map (·.map Char.toLower))] := by
    intro gs css h
    have hsplit := splitDouble_intercalate (hpieces h) []
    rwa [List.append_nil, splitDouble, List.modifyHead_cons, List.append_nil] at hsplit
  cases hspells with
  | full h =>
    rw [map_toLower_intercalate] at hnormalized hisIP
    refine parseIpv6_of_groups 0 hnormalized hisIP (hwhole h) (.inl ⟨rfl, rfl⟩)
      (parseGroups_pieces h) rfl ?_
    rw [List.replicate_zero, List.append_nil, List.append_nil]
  | @compressed left right lefts rights hleft hright hfew hgroups =>
    rw [List.map_append, List.map_cons, List.map_cons, map_toLower_intercalate,
      map_toLower_intercalate] at hnormalized hisIP
    have hlefts := pieces_of_forall₂ hleft
    have hhalves : splitDouble ([':'].intercalate (lefts.map (·.map Char.toLower)) ++
        ':' :: ':' :: [':'].intercalate (rights.map (·.map Char.toLower))) =
          [[':'].intercalate (lefts.map (·.map Char.toLower)),
            [':'].intercalate (rights.map (·.map Char.toLower))] := by
      rw [splitDouble_intercalate (hpieces hlefts), splitDouble, hwhole hright,
        List.modifyHead_cons, List.append_nil]
    exact parseIpv6_of_groups _ hnormalized hisIP hhalves (.inr ⟨rfl, by omega⟩)
      (parseGroups_pieces hlefts) (parseGroups_pieces hright) hgroups

end ScientificProtocol.Outbound
