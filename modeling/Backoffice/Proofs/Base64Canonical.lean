import Mathlib.Data.List.Nodup
import Backoffice.Codec.Base64
import Backoffice.Proofs.Octets

/-! # Canonical Base64

Reading unpadded Base64 accepts exactly the texts that writing produces. For an alphabet of 64
distinct ASCII symbols, none of them the padding `=` (**`Alphabet.Lawful`**; the URL-safe alphabet
is one, `Alphabet.url_lawful`):

* **`decode_eq_ok_iff`** — the one description of a successful read: the text is the symbols of
  some 6-bit values, cut into whole groups and a last group of two to four, whose last symbol
  leaves no bit unused; the octets are those the groups hold.
* **`decode_encode`** — the text of some octets reads back as those octets;
* **`encode_of_decode`** — a text that reads as some octets is the text of those octets.

So a read never accepts padding, a symbol outside the alphabet, a lone last symbol or set low bits
in the last symbol: every octet string has one text, and reading is its inverse. -/

namespace Backoffice

namespace Base64

/-! ## Lawful alphabets -/

/-- The octet of the symbol of value `v`: the symbol's code. -/
def Alphabet.octet (a : Alphabet) (v : Nat) : UInt8 := (a.symbol v).toNat.toUInt8

/-- **A lawful alphabet**: 64 distinct ASCII symbols, none of them the padding `=`. -/
structure Alphabet.Lawful (a : Alphabet) : Prop where
  length_eq : a.symbols.length = 64
  ascii : ∀ c ∈ a.symbols, c.toNat < 128
  nodup : a.symbols.Nodup
  pad_not_mem : '=' ∉ a.symbols

/-- The URL-safe alphabet is lawful. -/
theorem Alphabet.url_lawful : Alphabet.url.Lawful := by
  -- the symbols are checked one by one as a Boolean fold, which evaluates in small steps
  have hascii : Alphabet.url.symbols.all (fun c => decide (c.toNat < 128)) = true := by decide
  exact ⟨by decide, fun c hc => by simpa using List.all_eq_true.mp hascii c hc, by decide,
    by decide⟩

namespace Alphabet

variable {a : Alphabet}

theorem symbol_eq_getElem {v : Nat} (hv : v < a.symbols.length) : a.symbol v = a.symbols[v] := by
  simp [symbol, List.getD_eq_getElem?_getD, List.getElem?_eq_getElem hv]

/-- Every symbol is ASCII, the default one for a value beyond the alphabet included. -/
theorem symbol_lt (ha : a.Lawful) (v : Nat) : (a.symbol v).toNat < 128 := by
  unfold symbol
  rw [List.getD_eq_getElem?_getD]
  cases h : a.symbols[v]? with
  | none => decide
  | some c => exact ha.ascii c (List.mem_of_getElem? h)

theorem toNat_octet (ha : a.Lawful) (v : Nat) : (a.octet v).toNat = (a.symbol v).toNat := by
  have h := symbol_lt ha v
  simp [octet, Nat.mod_eq_of_lt (show (a.symbol v).toNat < 256 by omega)]

/-- **A symbol reads back as its value.** -/
theorem value?_octet (ha : a.Lawful) {v : Nat} (hv : v < 64) : a.value? (a.octet v) = some v := by
  have hvl : v < a.symbols.length := ha.length_eq ▸ hv
  unfold value?
  rw [List.findIdx?_eq_some_iff_getElem]
  refine ⟨hvl, by simp [toNat_octet ha, symbol_eq_getElem hvl], ?_⟩
  intro j hj
  have hjl : j < a.symbols.length := by omega
  -- an earlier symbol is a different character, so its code differs
  have hne : a.symbols[j] ≠ a.symbols[v] := by
    intro heq
    have := (ha.nodup.getElem_inj_iff).mp heq
    omega
  simp only [toNat_octet ha, symbol_eq_getElem hvl, beq_iff_eq]
  exact fun h => hne (Char.toNat_inj.mp h)

/-- **Only symbols are read**, each as the value whose octet it is. -/
theorem octet_of_value? (ha : a.Lawful) {b : UInt8} {v : Nat} (h : a.value? b = some v) :
    v < 64 ∧ a.octet v = b := by
  unfold value? at h
  rw [List.findIdx?_eq_some_iff_getElem] at h
  obtain ⟨hvl, hmatch, -⟩ := h
  refine ⟨ha.length_eq ▸ hvl, UInt8.toNat_inj.mp ?_⟩
  rw [toNat_octet ha, symbol_eq_getElem hvl]
  simpa using hmatch

/-- The padding octet is no symbol. -/
theorem value?_pad (ha : a.Lawful) : a.value? padOctet = none := by
  unfold value?
  rw [List.findIdx?_eq_none_iff]
  intro c hc
  have hne : c ≠ '=' := fun h => ha.pad_not_mem (h ▸ hc)
  rw [beq_eq_false_iff_ne]
  intro h
  exact hne (Char.toNat_inj.mp (by rw [h]; rfl))

end Alphabet

/-! ## Reading the symbols of a text

Both loops of the reader see a symbol as its value and refuse anything else; the indices they
carry only place refusals. -/

variable {a : Alphabet}

/-- The symbols before the last group read as their values. -/
theorem decodeBody_map (ha : a.Lawful) (s : Nat) {ns : List Nat} (hns : ∀ n ∈ ns, n < 64) :
    decodeBody a s (ns.map a.octet) = .ok (ns.map UInt8.ofNat) := by
  induction ns generalizing s with
  | nil => rfl
  | cons n ns ih =>
    have hn : n < 64 := hns n (by simp)
    rw [List.map_cons, decodeBody, Alphabet.value?_octet ha hn,
      ih (s + 1) fun m hm => hns m (by simp [hm])]
    rfl

/-- What the symbols before the last group read as: only symbols are read. -/
theorem symbols_of_decodeBody (ha : a.Lawful) {s : Nat} {l vs : List UInt8}
    (h : decodeBody a s l = .ok vs) :
    ∃ ns : List Nat, (∀ n ∈ ns, n < 64) ∧ l = ns.map a.octet ∧ vs = ns.map UInt8.ofNat := by
  induction l generalizing s vs with
  | nil =>
    refine ⟨[], by simp, rfl, ?_⟩
    simpa [decodeBody] using h.symm
  | cons b l ih =>
    unfold decodeBody at h
    cases hb : a.value? b with
    | none => simp [hb] at h
    | some v =>
      obtain ⟨hv, rfl⟩ := Alphabet.octet_of_value? ha hb
      cases hrest : decodeBody a (s + 1) l with
      | error e => simp [hb, hrest] at h
      | ok ws =>
        simp only [hb, hrest, Except.ok.injEq] at h
        obtain ⟨ns, hns, rfl, rfl⟩ := ih hrest
        exact ⟨v :: ns, List.forall_mem_cons.mpr ⟨hv, hns⟩, rfl, by simp [h]⟩

/-- A refusal in the last group is never taken back. -/
theorem foldl_lastGroupStep_error (s : Nat) (e : DecodeError) (zs : List (Nat × UInt8)) :
    zs.foldl (lastGroupStep a s) (.error e) = .error e := by
  induction zs with
  | nil => rfl
  | cons z zs ih => exact ih

/-- Symbols in the last group are read as their values, and the padding count stays zero. -/
theorem foldl_lastGroupStep_symbols (ha : a.Lawful) (s : Nat) :
    ∀ {zs : List (Nat × UInt8)} {ns : List Nat}, (∀ n ∈ ns, n < 64) →
      zs.map Prod.snd = ns.map a.octet → ∀ (vals : List Nat) (fp : Option Nat) (last : UInt8),
      ∃ last', zs.foldl (lastGroupStep a s) (.ok (vals, 0, fp, last)) =
        .ok (vals ++ ns, 0, fp, last')
  | [], [], _, _, vals, fp, last => ⟨last, by simp⟩
  | [], _ :: _, _, h, _, _, _ => by simp at h
  | _ :: _, [], _, h, _, _, _ => by simp at h
  | (i, b) :: zs, n :: ns, hns, h, vals, fp, last => by
    simp only [List.map_cons, List.cons.injEq] at h
    obtain ⟨rfl, hzs⟩ := h
    have hn : n < 64 := hns n (by simp)
    -- a symbol is not the padding octet, since the padding octet reads as nothing
    have hpad : (a.octet n == padOctet) = false := by
      rw [beq_eq_false_iff_ne]
      intro heq
      have := Alphabet.value?_octet ha hn
      rw [heq, Alphabet.value?_pad ha] at this
      exact absurd this (by simp)
    have hstep : lastGroupStep a s (.ok (vals, 0, fp, last)) (i, a.octet n) =
        .ok (vals ++ [n], 0, fp, a.octet n) := by
      simp [lastGroupStep, hpad, Alphabet.value?_octet ha hn]
    obtain ⟨last', hrest⟩ :=
      foldl_lastGroupStep_symbols ha s (fun m hm => hns m (by simp [hm])) hzs (vals ++ [n]) fp
        (a.octet n)
    exact ⟨last', by rw [List.foldl_cons, hstep, hrest, List.append_assoc, List.singleton_append]⟩

/-- A last group read without padding is symbols only. -/
theorem symbols_of_foldl_lastGroupStep (ha : a.Lawful) (s : Nat) :
    ∀ {zs : List (Nat × UInt8)} {vals₀ vals : List Nat} {p₀ : Nat} {fp₀ fp : Option Nat}
      {l₀ l : UInt8},
      zs.foldl (lastGroupStep a s) (.ok (vals₀, p₀, fp₀, l₀)) = .ok (vals, 0, fp, l) →
      p₀ = 0 ∧ ∃ ns : List Nat, (∀ n ∈ ns, n < 64) ∧ zs.map Prod.snd = ns.map a.octet ∧
        vals = vals₀ ++ ns
  | [], _, _, _, _, _, _, _, h => by
    simp only [List.foldl_nil, Except.ok.injEq, Prod.mk.injEq] at h
    exact ⟨h.2.1, [], by simp, rfl, by simp [h.1]⟩
  | (i, b) :: zs, vals₀, vals, p₀, fp₀, fp, l₀, l, h => by
    rw [List.foldl_cons] at h
    by_cases hb : (b == padOctet) = true
    · -- padding: refused in the first two places, and otherwise it is counted for good
      by_cases hi : i < 2
      · simp [lastGroupStep, hb, hi, foldl_lastGroupStep_error] at h
      · simp only [lastGroupStep, hb, hi, if_true, if_false] at h
        exact absurd (symbols_of_foldl_lastGroupStep ha s h).1 (by omega)
    · by_cases hp : p₀ > 0
      · simp [lastGroupStep, hb, hp, foldl_lastGroupStep_error] at h
      · cases hv : a.value? b with
        | none => simp [lastGroupStep, hb, hp, hv, foldl_lastGroupStep_error] at h
        | some v =>
          simp only [lastGroupStep, hb, hp, hv, if_false, Bool.false_eq_true] at h
          obtain ⟨-, ns, hns, hzs, rfl⟩ := symbols_of_foldl_lastGroupStep ha s h
          obtain ⟨hv64, rfl⟩ := Alphabet.octet_of_value? ha hv
          exact ⟨by omega, v :: ns, List.forall_mem_cons.mpr ⟨hv64, hns⟩, by simp [hzs], by simp⟩

theorem map_snd_indexed (g : List UInt8) (i : Nat) :
    ((g.zipIdx i).map fun (b, j) => (j, b)).map Prod.snd = g := by
  induction g generalizing i with
  | nil => rfl
  | cons b g ih => simp [ih]

/-- **The last group of symbols** reads as their values with no padding. -/
theorem lastGroupValues_map (ha : a.Lawful) (s : Nat) {ns : List Nat} (hns : ∀ n ∈ ns, n < 64) :
    ∃ last, lastGroupValues a s (ns.map a.octet) = .ok (ns, 0, last) := by
  obtain ⟨last, h⟩ := foldl_lastGroupStep_symbols ha s hns (map_snd_indexed _ 0) [] none 0
  exact ⟨last, by simp only [lastGroupValues, h, List.nil_append]⟩

/-- A last group read with no padding is the symbols of the values read. -/
theorem symbols_of_lastGroupValues (ha : a.Lawful) {s : Nat} {g : List UInt8} {vals : List Nat}
    {last : UInt8} (h : lastGroupValues a s g = .ok (vals, 0, last)) :
    (∀ v ∈ vals, v < 64) ∧ g = vals.map a.octet := by
  simp only [lastGroupValues] at h
  split at h
  · simp at h
  · rename_i vals' pads fp last' hfold
    simp only [Except.ok.injEq, Prod.mk.injEq] at h
    obtain ⟨rfl, rfl, rfl⟩ := h
    obtain ⟨-, ns, hns, hzs, rfl⟩ := symbols_of_foldl_lastGroupStep ha s hfold
    rw [map_snd_indexed] at hzs
    exact ⟨by simpa using hns, by simpa using hzs⟩


/-! ## The last group

A text ends in a group of two, three or four symbols, which holds one, two or three octets; the
bits of its last symbol beyond those octets must be zero. -/

/-- **The octets of a last group** of two, three or four 6-bit values, and none of any other. -/
def lastOctets : List Nat → List UInt8
  | [v₀, v₁] => [UInt8.ofNat (v₀ * 4 + v₁ / 16)]
  | [v₀, v₁, v₂] => [UInt8.ofNat (v₀ * 4 + v₁ / 16), UInt8.ofNat (v₁ % 16 * 16 + v₂ / 4)]
  | [v₀, v₁, v₂, v₃] =>
    [UInt8.ofNat (v₀ * 4 + v₁ / 16), UInt8.ofNat (v₁ % 16 * 16 + v₂ / 4),
      UInt8.ofNat (v₂ % 4 * 64 + v₃)]
  | _ => []

/-- **A last group leaves no bit unused**: the low bits of its last symbol that no octet holds
are zero. -/
def LastGroupClean : List Nat → Prop
  | [_, v₁] => v₁ % 16 = 0
  | [_, _, v₂] => v₂ % 4 = 0
  | _ => True

/-- The last group starts after whole groups, no later than the end, and holds at most four
symbols, at least one unless the text is empty. -/
theorem lastGroupStart_spec (len : Nat) :
    lastGroupStart len % 4 = 0 ∧ lastGroupStart len ≤ len ∧ len - lastGroupStart len ≤ 4 ∧
      (0 < len → lastGroupStart len < len) := by
  unfold lastGroupStart
  by_cases h : len % 4 = 0 <;> simp [h] <;> omega

/-- A whole group in front of a non-empty text moves its last group by four. -/
theorem lastGroupStart_four_add {n : Nat} (h : 0 < n) :
    lastGroupStart (4 + n) = 4 + lastGroupStart n := by
  unfold lastGroupStart
  have hmod : (4 + n) % 4 = n % 4 := by omega
  rw [hmod]
  by_cases h4 : n % 4 = 0 <;> simp [h4] <;> omega

/-- One value packed into the number of a last group. Rewriting with it, rather than reducing
the fold's pattern match in place, keeps the kernel from unfolding the products by their
constant factors. -/
theorem lastGroupNumber_foldl_zipIdx_cons (acc v k : Nat) (vs : List Nat) :
    List.foldl
        (fun acc (x : Nat × Nat) => match x with | (v, i) => acc + v * Nat.pow 2 (26 - 6 * i))
        acc ((v :: vs).zipIdx k) =
      List.foldl
        (fun acc (x : Nat × Nat) => match x with | (v, i) => acc + v * Nat.pow 2 (26 - 6 * i))
        (acc + v * Nat.pow 2 (26 - 6 * k)) (vs.zipIdx (k + 1)) := by
  rw [List.zipIdx_cons, List.foldl_cons]

/-- **The number of a last group** holds its values six bits apart, the first at the top. -/
theorem lastGroupNumber_pair (v₀ v₁ : Nat) :
    lastGroupNumber [v₀, v₁] = v₀ * Nat.pow 2 26 + v₁ * Nat.pow 2 20 := by
  rw [lastGroupNumber, lastGroupNumber_foldl_zipIdx_cons, lastGroupNumber_foldl_zipIdx_cons,
    List.zipIdx_nil, List.foldl_nil, Nat.zero_add]

theorem lastGroupNumber_triple (v₀ v₁ v₂ : Nat) :
    lastGroupNumber [v₀, v₁, v₂] = v₀ * Nat.pow 2 26 + v₁ * Nat.pow 2 20 + v₂ * Nat.pow 2 14 := by
  rw [lastGroupNumber, lastGroupNumber_foldl_zipIdx_cons, lastGroupNumber_foldl_zipIdx_cons,
    lastGroupNumber_foldl_zipIdx_cons, List.zipIdx_nil, List.foldl_nil, Nat.zero_add]

theorem lastGroupNumber_quad (v₀ v₁ v₂ v₃ : Nat) :
    lastGroupNumber [v₀, v₁, v₂, v₃] =
      v₀ * Nat.pow 2 26 + v₁ * Nat.pow 2 20 + v₂ * Nat.pow 2 14 + v₃ * Nat.pow 2 8 := by
  rw [lastGroupNumber, lastGroupNumber_foldl_zipIdx_cons, lastGroupNumber_foldl_zipIdx_cons,
    lastGroupNumber_foldl_zipIdx_cons, lastGroupNumber_foldl_zipIdx_cons, List.zipIdx_nil,
    List.foldl_nil, Nat.zero_add]

/-- A last group with no bit unused passes the reader's check, and only such a group does. -/
theorem lastGroupNumber_mod_eq_zero_iff {vals : List Nat} (hlen : vals.length ≤ 4)
    (hone : vals.length ≠ 1) :
    lastGroupNumber vals % Nat.pow 2 (32 - 8 * (vals.length * 6 / 8)) = 0 ↔
      LastGroupClean vals := by
  rcases vals with _ | ⟨v₀, _ | ⟨v₁, _ | ⟨v₂, _ | ⟨v₃, _ | ⟨v₄, vals⟩⟩⟩⟩⟩
  · simp [lastGroupNumber, LastGroupClean]
  · simp at hone
  · rw [lastGroupNumber_pair]
    simp [LastGroupClean]
    omega
  · rw [lastGroupNumber_triple]
    simp [LastGroupClean]
    omega
  · rw [lastGroupNumber_quad]
    simp [LastGroupClean]
    omega
  · simp only [List.length_cons] at hlen
    omega

/-- Two numbers name the same octet when they agree below 256. -/
theorem uInt8_ofNat_eq {m n : Nat} (h : m % 256 = n % 256) : UInt8.ofNat m = UInt8.ofNat n := by
  apply UInt8.toNat_inj.mp
  simp only [UInt8.toNat_ofNat']
  exact h

/-- The octets the reader takes from a last group are `lastOctets`. -/
theorem lastGroupNumber_octets {vals : List Nat} (hlen : vals.length ≤ 4)
    (hv : ∀ v ∈ vals, v < 64) :
    (List.range (vals.length * 6 / 8)).map
        (fun j => UInt8.ofNat (lastGroupNumber vals / Nat.pow 2 (24 - 8 * j) % 256)) =
      lastOctets vals := by
  rcases vals with _ | ⟨v₀, _ | ⟨v₁, _ | ⟨v₂, _ | ⟨v₃, _ | ⟨v₄, vals⟩⟩⟩⟩⟩
  · simp [lastOctets]
  · simp [lastOctets]
  -- each octet is compared as a number: a shifted window of the values' bits
  · rw [lastGroupNumber_pair]
    simp only [List.mem_cons, List.not_mem_nil, or_false, forall_eq_or_imp, forall_eq] at hv
    simp [lastOctets, List.range_succ, -UInt8.ofNat_add, -UInt8.ofNat_mul]
    apply uInt8_ofNat_eq
    omega
  · rw [lastGroupNumber_triple]
    simp only [List.mem_cons, List.not_mem_nil, or_false, forall_eq_or_imp, forall_eq] at hv
    simp [lastOctets, List.range_succ, -UInt8.ofNat_add, -UInt8.ofNat_mul]
    constructor <;> apply uInt8_ofNat_eq <;> omega
  · rw [lastGroupNumber_quad]
    simp only [List.mem_cons, List.not_mem_nil, or_false, forall_eq_or_imp, forall_eq] at hv
    simp [lastOctets, List.range_succ, -UInt8.ofNat_add, -UInt8.ofNat_mul]
    refine ⟨?_, ?_, ?_⟩ <;> apply uInt8_ofNat_eq <;> omega
  · simp only [List.length_cons] at hlen
    omega

/-! ## The one description of a successful read -/

/-- **A text reads as `bs` exactly when** it is the symbols of some 6-bit values, the last group
(from `lastGroupStart`) is not a lone symbol and leaves no bit unused, and `bs` is the octets of
the whole groups followed by those of the last group. -/
theorem decode_eq_ok_iff (ha : a.Lawful) {text bs : List UInt8} :
    decode a text = .ok bs ↔ ∃ body last : List Nat,
      text = (body ++ last).map a.octet ∧ body.length = lastGroupStart text.length ∧
      (∀ v ∈ body ++ last, v < 64) ∧ last.length ≠ 1 ∧ LastGroupClean last ∧
      bs = packGroups (body.map UInt8.ofNat) ++ lastOctets last := by
  obtain ⟨-, hle, hgroup, hpos⟩ := lastGroupStart_spec text.length
  constructor
  · intro h
    unfold decode at h
    split at h
    · simp at h
    · simp only at h
      cases hB : decodeBody a 0 (text.take (lastGroupStart text.length)) with
      | error e => simp [hB] at h
      | ok bodyValues =>
        cases hL : lastGroupValues a (lastGroupStart text.length)
            (text.drop (lastGroupStart text.length)) with
        | error e => simp [hB, hL] at h
        | ok r =>
          obtain ⟨vals, pads, last⟩ := r
          simp only [hB, hL] at h
          split at h
          · simp at h
          · rename_i hshort
            split at h
            · simp at h
            · rename_i hpads
              obtain rfl : pads = 0 := by omega
              obtain ⟨body, hbody, htake, rfl⟩ := symbols_of_decodeBody ha hB
              obtain ⟨hvals, hdrop⟩ := symbols_of_lastGroupValues ha hL
              have hvlen : vals.length ≤ 4 := by
                have := congrArg List.length hdrop
                simp only [List.length_drop, List.length_map] at this
                omega
              have hone : vals.length ≠ 1 := by
                intro h1
                have := congrArg List.length hdrop
                simp only [List.length_drop, List.length_map] at this
                have hempty : ¬text.length > 0 := fun hp => hshort (by simp [hp, h1])
                omega
              split at h
              · simp at h
              · rename_i hclean
                refine ⟨body, vals, ?_, ?_, ?_, hone, ?_, ?_⟩
                · rw [← List.take_append_drop (lastGroupStart text.length) text, htake, hdrop,
                    List.map_append]
                · have := congrArg List.length htake
                  rw [List.length_take, List.length_map, Nat.min_eq_left hle] at this
                  exact this.symm
                · intro v hv
                  rcases List.mem_append.mp hv with hv | hv
                  · exact hbody v hv
                  · exact hvals v hv
                · exact (lastGroupNumber_mod_eq_zero_iff hvlen hone).mp (by simpa using hclean)
                · simp only [Except.ok.injEq] at h
                  rw [← h, lastGroupNumber_octets hvlen hvals]
  · rintro ⟨body, last, rfl, hbl, hv, hone, hclean, rfl⟩
    have hbody : ∀ v ∈ body, v < 64 := fun v h => hv v (List.mem_append_left _ h)
    have hlast : ∀ v ∈ last, v < 64 := fun v h => hv v (List.mem_append_right _ h)
    simp only [List.length_map, List.length_append] at hle hgroup hpos hbl
    -- every octet is a symbol, so the last one is not refused up front
    have hbad : lastSymbolBad a ((body ++ last).map a.octet) = false := by
      unfold lastSymbolBad
      split
      · rename_i b hb
        obtain ⟨v, hvmem, rfl⟩ := List.mem_map.mp (List.mem_of_getLast? hb)
        simp [Alphabet.value?_octet ha (hv v hvmem)]
      · rfl
    have htake : ((body ++ last).map a.octet).take (lastGroupStart (body.length + last.length)) =
        body.map a.octet := by
      rw [← hbl, List.map_append, List.take_left' (by simp)]
    have hdrop : ((body ++ last).map a.octet).drop (lastGroupStart (body.length + last.length)) =
        last.map a.octet := by
      rw [← hbl, List.map_append, List.drop_left' (by simp)]
    have hlen : last.length ≤ 4 := by omega
    -- a last group is two to four symbols, or the text is empty
    have hshort :
        ¬((decide ((body.length + last.length) > 0) && decide (last.length < 2)) = true) := by
      simp only [Bool.and_eq_true, decide_eq_true_eq, not_and, Nat.not_lt]
      intro hp
      have := hpos hp
      omega
    obtain ⟨lst, hL⟩ := lastGroupValues_map ha (lastGroupStart (body.length + last.length)) hlast
    unfold decode
    rw [if_neg (by rw [hbad]; decide)]
    simp only [List.length_map, List.length_append]
    rw [htake, decodeBody_map ha 0 hbody, hdrop, hL]
    simp only
    rw [if_neg hshort, if_neg (by omega),
      if_neg (by simpa using (lastGroupNumber_mod_eq_zero_iff hlen hone).mpr hclean),
      lastGroupNumber_octets hlen hlast]


/-! ## Writing

A group of three octets is written as four symbols, and a last group of one or two octets as two
or three. -/

/-- **The 6-bit values of a group** of one to three octets, as writing spells them. -/
def groupValues : List UInt8 → List Nat
  | [x] => [x.toNat / 4, x.toNat % 4 * 16]
  | [x, y] =>
    let n := x.toNat * 256 + y.toNat
    [n / 1024, n / 16 % 64, n % 16 * 4]
  | [x, y, z] =>
    let n := (x.toNat * 256 + y.toNat) * 256 + z.toNat
    [n / 262144, n / 4096 % 64, n / 64 % 64, n % 64]
  | _ => []

theorem groupValues_lt (g : List UInt8) : ∀ v ∈ groupValues g, v < 64 := by
  rcases g with _ | ⟨x, _ | ⟨y, _ | ⟨z, _ | ⟨w, g⟩⟩⟩⟩
  · simp [groupValues]
  · have := x.toNat_lt
    simp [groupValues]
    omega
  · have := x.toNat_lt
    have := y.toNat_lt
    simp [groupValues]
    omega
  · have := x.toNat_lt
    have := y.toNat_lt
    have := z.toNat_lt
    simp [groupValues]
    omega
  · simp [groupValues]

/-- The octets of a string of symbols are the symbols' octets. -/
theorem toUTF8_toList_symbols (ha : a.Lawful) (vs : List Nat) :
    (String.ofList (vs.map a.symbol)).toUTF8.toList = vs.map a.octet := by
  rw [Octets.toUTF8_toList_ofList_ascii]
  · simp [Alphabet.octet]
  · intro c hc
    obtain ⟨v, -, rfl⟩ := List.mem_map.mp hc
    exact Alphabet.symbol_lt ha v

/-- A group of three octets and what follows it. -/
theorem encode_cons_cons_cons (ha : a.Lawful) (x y z : UInt8) (rest : List UInt8) :
    (encode a (x :: y :: z :: rest)).toUTF8.toList =
      (groupValues [x, y, z]).map a.octet ++ (encode a rest).toUTF8.toList := by
  rw [encode, Octets.toUTF8_toList_append, ← toUTF8_toList_symbols ha]
  rfl

/-- A short last group of one to three octets. -/
theorem encode_short (ha : a.Lawful) {g : List UInt8} (hg : g.length ≤ 3) :
    (encode a g).toUTF8.toList = (groupValues g).map a.octet := by
  rcases g with _ | ⟨x, _ | ⟨y, _ | ⟨z, _ | ⟨w, g⟩⟩⟩⟩
  · simp [encode, groupValues]
  · rw [encode, ← toUTF8_toList_symbols ha]; rfl
  · rw [encode, ← toUTF8_toList_symbols ha]; rfl
  · rw [encode_cons_cons_cons ha, encode]; simp
  · simp only [List.length_cons] at hg
    omega

/-- Writing is compatible with cutting after whole groups of three octets. -/
theorem encode_append : ∀ {xs : List UInt8} (ys : List UInt8), xs.length % 3 = 0 →
    encode a (xs ++ ys) = encode a xs ++ encode a ys
  | [], ys, _ => by simp [encode]
  | x :: y :: z :: xs, ys, h => by
    rw [List.cons_append, List.cons_append, List.cons_append, encode, encode,
      encode_append ys (by simp only [List.length_cons] at h; omega), String.append_assoc]
  | [_], _, h | [_, _], _, h => by simp at h

/-- **Reading back a group of three octets**: the four values it is written as pack into it. -/
theorem packGroups_groupValues (x y z : UInt8) (rest : List UInt8) :
    packGroups ((groupValues [x, y, z]).map UInt8.ofNat ++ rest) =
      x :: y :: z :: packGroups rest := by
  have hx := x.toNat_lt
  have hy := y.toNat_lt
  have hz := z.toNat_lt
  simp only [groupValues, List.map_cons, List.map_nil, List.cons_append, List.nil_append,
    packGroups, List.cons.injEq]
  refine ⟨?_, ?_, ?_, trivial⟩ <;> apply UInt8.toNat_inj.mp <;> simp <;> omega

/-- **Reading back a last group** of one or two octets (or of three, as a whole last group). -/
theorem lastOctets_groupValues {g : List UInt8} (hg : g.length ≤ 3) (hne : g ≠ []) :
    lastOctets (groupValues g) = g ∧ LastGroupClean (groupValues g) := by
  rcases g with _ | ⟨x, _ | ⟨y, _ | ⟨z, _ | ⟨w, g⟩⟩⟩⟩
  · exact absurd rfl hne
  · have := x.toNat_lt
    refine ⟨?_, by simp only [groupValues, LastGroupClean]; omega⟩
    simp only [groupValues, lastOctets, List.cons.injEq, and_true]
    exact UInt8.toNat_inj.mp (by simp; omega)
  · have := x.toNat_lt
    have := y.toNat_lt
    refine ⟨?_, by simp only [groupValues, LastGroupClean]; omega⟩
    simp only [groupValues, lastOctets, List.cons.injEq, and_true]
    exact ⟨UInt8.toNat_inj.mp (by simp; omega), UInt8.toNat_inj.mp (by simp; omega)⟩
  · have := x.toNat_lt
    have := y.toNat_lt
    have := z.toNat_lt
    refine ⟨?_, trivial⟩
    simp only [groupValues, lastOctets, List.cons.injEq, and_true]
    exact ⟨UInt8.toNat_inj.mp (by simp; omega), UInt8.toNat_inj.mp (by simp; omega),
      UInt8.toNat_inj.mp (by simp; omega)⟩
  · simp only [List.length_cons] at hg
    omega

theorem length_groupValues {g : List UInt8} (hg : g.length ≤ 3) (hne : g ≠ []) :
    (groupValues g).length = g.length + 1 := by
  rcases g with _ | ⟨x, _ | ⟨y, _ | ⟨z, _ | ⟨w, g⟩⟩⟩⟩
  · exact absurd rfl hne
  · simp [groupValues]
  · simp [groupValues]
  · simp [groupValues]
  · simp only [List.length_cons] at hg
    omega

theorem length_packGroups_mod (l : List UInt8) : (packGroups l).length % 3 = 0 := by
  fun_induction packGroups l with
  | case1 a b c d rest ih => simp only [List.length_cons]; omega
  | case2 => simp

/-- A text of one short group: no whole groups, the last group its values. -/
theorem encode_split_short (ha : a.Lawful) {g : List UInt8} (hg : g.length ≤ 3) (hne : g ≠ []) :
    ∃ body last : List Nat, (encode a g).toUTF8.toList = (body ++ last).map a.octet ∧
      body.length = lastGroupStart (body.length + last.length) ∧ (∀ v ∈ body ++ last, v < 64) ∧
      last.length ≠ 1 ∧ LastGroupClean last ∧
      g = packGroups (body.map UInt8.ofNat) ++ lastOctets last := by
  have hlen := length_groupValues hg hne
  have hpos : 0 < g.length := List.length_pos_iff.mpr hne
  obtain ⟨hback, hclean⟩ := lastOctets_groupValues hg hne
  refine ⟨[], groupValues g, by rw [encode_short ha hg, List.nil_append], ?_,
    by simpa using groupValues_lt g, by omega, hclean, by simp [packGroups, hback]⟩
  simp only [List.length_nil, Nat.zero_add, hlen, lastGroupStart]
  by_cases h : (g.length + 1) % 4 = 0 <;> simp [h] <;> omega

/-- **How a written text splits**: the values of its whole groups and of its last group, as the
reader sees them. -/
theorem encode_split (ha : a.Lawful) : ∀ bs : List UInt8, ∃ body last : List Nat,
    (encode a bs).toUTF8.toList = (body ++ last).map a.octet ∧
      body.length = lastGroupStart (body.length + last.length) ∧ (∀ v ∈ body ++ last, v < 64) ∧
      last.length ≠ 1 ∧ LastGroupClean last ∧
      bs = packGroups (body.map UInt8.ofNat) ++ lastOctets last
  | [] => ⟨[], [], by simp [encode], rfl, by simp, by simp, trivial, rfl⟩
  | [x] => encode_split_short ha (by simp) (by simp)
  | [x, y] => encode_split_short ha (by simp) (by simp)
  | [x, y, z] => encode_split_short ha (by simp) (by simp)
  | x :: y :: z :: w :: rest => by
    obtain ⟨body, last, htext, hbl, hv, hone, hclean, hbs⟩ := encode_split ha (w :: rest)
    -- what follows the first group is not empty, so it keeps its own last group
    have hne : 0 < body.length + last.length := by
      rcases Nat.eq_zero_or_pos (body.length + last.length) with h | h
      · obtain ⟨hb, hl⟩ : body = [] ∧ last = [] := by
          simpa [List.length_eq_zero_iff] using h
        simp [hb, hl, packGroups, lastOctets] at hbs
      · exact h
    have hfour : (groupValues [x, y, z]).length = 4 := rfl
    refine ⟨groupValues [x, y, z] ++ body, last, ?_, ?_, ?_, hone, hclean, ?_⟩
    · rw [encode_cons_cons_cons ha, htext]
      simp only [List.map_append, List.append_assoc]
    · rw [List.length_append, hfour, Nat.add_assoc, lastGroupStart_four_add hne, ← hbl]
    · intro v hv'
      rcases List.mem_append.mp (List.append_assoc _ _ _ ▸ hv') with h | h
      · exact groupValues_lt _ v h
      · exact hv v h
    · rw [List.map_append, packGroups_groupValues, hbs]
      simp only [List.cons_append]

/-- **Whole groups are written back** as the symbols they were read from. -/
theorem encode_packGroups (ha : a.Lawful) : ∀ {body : List Nat}, body.length % 4 = 0 →
    (∀ v ∈ body, v < 64) →
    (encode a (packGroups (body.map UInt8.ofNat))).toUTF8.toList = body.map a.octet
  | [], _, _ => by simp [packGroups, encode]
  | v₀ :: v₁ :: v₂ :: v₃ :: rest, hlen, hv => by
    have h₀ := hv v₀ (by simp)
    have h₁ := hv v₁ (by simp)
    have h₂ := hv v₂ (by simp)
    have h₃ := hv v₃ (by simp)
    simp only [List.map_cons, packGroups]
    rw [encode_cons_cons_cons ha,
      encode_packGroups ha (by simp only [List.length_cons] at hlen; omega)
        fun v hv' => hv v (by simp [hv']),
      show a.octet v₀ :: a.octet v₁ :: a.octet v₂ :: a.octet v₃ :: rest.map a.octet =
        [v₀, v₁, v₂, v₃].map a.octet ++ rest.map a.octet from rfl]
    -- the three octets of four values are written as those four values
    congr 2
    simp only [groupValues, UInt8.toNat_ofNat', List.cons.injEq, and_true]
    omega
  | [_], h, _ | [_, _], h, _ | [_, _, _], h, _ => by simp at h

/-- **A last group is written back** as the symbols it was read from, when it leaves no bit
unused. -/
theorem encode_lastOctets (ha : a.Lawful) {last : List Nat} (hlen : last.length ≤ 4)
    (hone : last.length ≠ 1) (hclean : LastGroupClean last) (hv : ∀ v ∈ last, v < 64) :
    (encode a (lastOctets last)).toUTF8.toList = last.map a.octet := by
  rcases last with _ | ⟨v₀, _ | ⟨v₁, _ | ⟨v₂, _ | ⟨v₃, _ | ⟨v₄, l⟩⟩⟩⟩⟩
  · simp [lastOctets, encode]
  · simp at hone
  all_goals
    rw [encode_short ha (by simp [lastOctets])]
    congr 1
    simp only [LastGroupClean] at hclean
    simp only [List.mem_cons, forall_eq_or_imp] at hv
    simp only [lastOctets, groupValues, UInt8.toNat_ofNat', List.cons.injEq, and_true]
  · omega
  · omega
  · omega
  · simp only [List.length_cons] at hlen
    omega

/-! ## Canonical form -/

/-- **Reading inverts writing**: the text of some octets reads back as those octets. -/
theorem decode_encode (ha : a.Lawful) (bs : List UInt8) :
    decode a (encode a bs).toUTF8.toList = .ok bs := by
  obtain ⟨body, last, htext, hbl, hv, hone, hclean, hbs⟩ := encode_split ha bs
  refine (decode_eq_ok_iff ha).mpr ⟨body, last, htext, ?_, hv, hone, hclean, hbs⟩
  rw [htext, List.length_map, List.length_append]
  exact hbl

/-- **Only written texts are read**: a text that reads as some octets is the text of those
octets. -/
theorem encode_of_decode (ha : a.Lawful) {text bs : List UInt8} (h : decode a text = .ok bs) :
    (encode a bs).toUTF8.toList = text := by
  obtain ⟨body, last, rfl, hbl, hv, hone, hclean, rfl⟩ := (decode_eq_ok_iff ha).mp h
  obtain ⟨hmod, -, hgroup, -⟩ := lastGroupStart_spec ((body ++ last).map a.octet).length
  simp only [List.length_map, List.length_append] at hbl hmod hgroup
  rw [encode_append _ (length_packGroups_mod _), Octets.toUTF8_toList_append,
    encode_packGroups ha (by omega) fun v hv' => hv v (List.mem_append_left _ hv'),
    encode_lastOctets ha (by omega) hone hclean fun v hv' => hv v (List.mem_append_right _ hv'),
    List.map_append]

end Base64

end Backoffice
