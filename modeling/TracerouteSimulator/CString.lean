import Mathlib.Data.List.Infix
import Mathlib.Data.Nat.Digits
import Mathlib.Tactic.IntervalCases

/-! # C string primitives

The C sources handle NUL-terminated strings with `strstr`, `strncpy`, `snprintf`, `atoi`, `strtol`
and `sscanf`. A C string is modelled as the list of its characters before the terminator.

* **`strstr hay needle`** — the offset of the first occurrence, characterised by
  `strstr_eq_some_iff` / `strstr_eq_none_iff`, with the concatenation rules the facts parser needs.
* **`decimal n`** — what `printf("%u")` writes; `digitsValue` reads it back
  (`digitsValue_decimal`), which makes the zero-padded codes `r%03d` / `i%03d` injective.
* **`strtol s`** — value and end pointer of `strtol(s, &end, 10)`; `atoi` is its value as an
  `int`; `scanUnsigned` is one `%u` of `sscanf` and `scanToken` is `sscanf(s, "%s", buf)`.
* **`overwrite buf off src`** — a `memcpy` or `memset` that lands inside its block. -/

namespace TracerouteSimulator

/-! ## (1) Substring search -/

/-- **`strstr(hay, needle)`**: the offset of the first occurrence of `needle` in `hay`, `none` for
`NULL`. An empty needle occurs at offset `0`. -/
def strstr (hay needle : List Char) : Option Nat :=
  if needle.isPrefixOf hay then some 0
  else match hay with
    | [] => none
    | _ :: rest => (strstr rest needle).map (· + 1)

/-- **`strchr(s, c)`** for a character other than `\0`: the offset of its first occurrence. -/
def strchr (s : List Char) (c : Char) : Option Nat := strstr s [c]

theorem strstr_eq_zero_of_isPrefixOf {hay needle : List Char} (h : needle <+: hay) :
    strstr hay needle = some 0 := by
  unfold strstr
  simp [h]

theorem strstr_cons_of_not_isPrefixOf {c : Char} {rest needle : List Char}
    (h : ¬ needle <+: c :: rest) : strstr (c :: rest) needle = (strstr rest needle).map (· + 1) := by
  rw [strstr]
  simp [h]

/-- **First occurrence.** `strstr` returns `k` exactly when `needle` starts at `k` and at no earlier
offset. -/
theorem strstr_eq_some_iff {hay needle : List Char} {k : Nat} :
    strstr hay needle = some k ↔ needle <+: hay.drop k ∧ ∀ j < k, ¬ needle <+: hay.drop j := by
  induction hay generalizing k with
  | nil =>
    unfold strstr
    by_cases hn : needle = []
    · subst hn
      cases k with
      | zero => simp
      | succ k => simpa using ⟨0, Nat.succ_pos k⟩
    · have : ¬ needle <+: [] := fun h => hn (List.prefix_nil.mp h)
      simp [this]
  | cons c rest ih =>
    by_cases hp : needle <+: c :: rest
    · rw [strstr_eq_zero_of_isPrefixOf hp]
      cases k with
      | zero => simpa using hp
      | succ k =>
        exact ⟨fun h => absurd (Option.some.inj h) (by omega),
          fun h => absurd hp (h.2 0 (Nat.succ_pos k))⟩
    · rw [strstr_cons_of_not_isPrefixOf hp]
      cases k with
      | zero => simpa using hp
      | succ k =>
        simp only [Option.map_eq_some', Nat.add_right_cancel_iff, exists_eq_right, ih,
          List.drop_succ_cons]
        constructor
        · rintro ⟨h₁, h₂⟩
          refine ⟨h₁, fun j hj => ?_⟩
          cases j with
          | zero => exact hp
          | succ j => exact h₂ j (by omega)
        · rintro ⟨h₁, h₂⟩
          exact ⟨h₁, fun j hj => h₂ (j + 1) (by omega)⟩

/-- **No occurrence.** `strstr` fails exactly when `needle` starts at no offset. -/
theorem strstr_eq_none_iff {hay needle : List Char} :
    strstr hay needle = none ↔ ∀ j, ¬ needle <+: hay.drop j := by
  induction hay with
  | nil =>
    unfold strstr
    by_cases hn : needle = []
    · subst hn; simp
    · have : ¬ needle <+: [] := fun h => hn (List.prefix_nil.mp h)
      simp [this]
  | cons c rest ih =>
    by_cases hp : needle <+: c :: rest
    · rw [strstr_eq_zero_of_isPrefixOf hp]
      simpa using ⟨0, hp⟩
    · rw [strstr_cons_of_not_isPrefixOf hp, Option.map_eq_none', ih]
      constructor
      · intro h j
        cases j with
        | zero => exact hp
        | succ j => exact h j
      · exact fun h j => h (j + 1)

/-- **Skipping a prefix without occurrence.** If `needle` starts at no offset inside `a`, the
search in `a ++ b` is the search in `b`, shifted by `a`'s length. -/
theorem strstr_append_of_forall {a b needle : List Char}
    (h : ∀ j < a.length, ¬ needle <+: (a ++ b).drop j) :
    strstr (a ++ b) needle = (strstr b needle).map (· + a.length) := by
  induction a with
  | nil => simp
  | cons c a ih =>
    have h₀ : ¬ needle <+: c :: (a ++ b) := h 0 (Nat.succ_pos _)
    rw [List.cons_append, strstr_cons_of_not_isPrefixOf h₀,
      ih fun j hj => h (j + 1) (by simpa using hj), Option.map_map]
    congr 1

/-- A prefix of `x ++ c :: y` that avoids the character `c` is a prefix of `x`. -/
theorem prefix_of_prefix_append_cons {w x y : List Char} {c : Char} (hc : c ∉ w)
    (h : w <+: x ++ c :: y) : w <+: x := by
  induction x generalizing w with
  | nil =>
    cases w with
    | nil => exact List.nil_prefix
    | cons d w =>
      simp only [List.nil_append, List.cons_prefix_cons] at h
      exact absurd (h.1 ▸ List.mem_cons_self d w) hc
  | cons d x ih =>
    cases w with
    | nil => exact List.nil_prefix
    | cons e w =>
      simp only [List.cons_append, List.cons_prefix_cons] at h
      exact List.cons_prefix_cons.mpr ⟨h.1, ih (fun hm => hc (List.mem_cons_of_mem e hm)) h.2⟩

/-- **Line-local search.** A needle without a newline that does not occur in the line `a` is found
in `a ++ '\n' :: b` only inside `b`. -/
theorem strstr_append_newline {a b needle : List Char} (hw : '\n' ∉ needle)
    (ha : ∀ j, ¬ needle <+: a.drop j) :
    strstr (a ++ '\n' :: b) needle = (strstr b needle).map (· + (a.length + 1)) := by
  have e : a ++ '\n' :: b = (a ++ ['\n']) ++ b := by simp
  rw [e, strstr_append_of_forall, List.length_append, List.length_singleton]
  intro j hj
  rw [← e, List.drop_append_of_le_length (by simp at hj; omega)]
  exact fun hp => ha j (prefix_of_prefix_append_cons hw hp)

/-- A needle is not found in a text that lacks one of its characters. -/
theorem strstr_eq_none_of_not_mem {hay needle : List Char} {c : Char} (hc : c ∈ needle)
    (h : c ∉ hay) : strstr hay needle = none :=
  strstr_eq_none_iff.mpr fun _ hp => h (List.mem_of_mem_drop (hp.subset hc))

/-- A needle is not found where one of its prefixes is not. -/
theorem strstr_eq_none_of_prefix {hay p needle : List Char} (hp : p <+: needle)
    (h : strstr hay p = none) : strstr hay needle = none :=
  strstr_eq_none_iff.mpr fun j hn => strstr_eq_none_iff.mp h j (hp.trans hn)

/-- A prefix of `a ++ b` that is not a prefix of `a` reaches into `b`: the first character of `b`
is one of its characters. -/
theorem exists_head_mem_of_prefix_append {needle a b : List Char} (h : needle <+: a ++ b)
    (hn : ¬ needle <+: a) : ∃ c, b.head? = some c ∧ c ∈ needle := by
  obtain ⟨t, rfl⟩ := (List.prefix_or_prefix_of_prefix h (List.prefix_append a b)).resolve_left hn
  cases t with
  | nil => exact absurd (by simp) hn
  | cons c t =>
    obtain ⟨u, rfl⟩ := (List.prefix_append_right_inj a).mp h
    exact ⟨c, rfl, by simp⟩

/-- **A needle between two foreign texts.** If no character of `needle` occurs in `a` or `c`, an
occurrence in `a ++ b ++ c` is one in `b`. -/
theorem strstr_append_append_eq_none {a b c needle : List Char} (hne : needle ≠ [])
    (ha : ∀ x ∈ needle, x ∉ a) (hc : ∀ x ∈ needle, x ∉ c) (hb : strstr b needle = none) :
    strstr (a ++ b ++ c) needle = none := by
  obtain ⟨x, t, rfl⟩ := List.exists_cons_of_ne_nil hne
  refine strstr_eq_none_iff.mpr fun j hp => ?_
  rw [List.append_assoc, List.drop_append_eq_append_drop, List.drop_append_eq_append_drop] at hp
  by_cases hj : j < a.length
  · obtain ⟨y, a', hy⟩ := List.exists_cons_of_ne_nil (by simpa using hj : a.drop j ≠ [])
    rw [hy, List.cons_append, List.cons_prefix_cons] at hp
    exact ha x (List.mem_cons_self x t) (hp.1 ▸ List.mem_of_mem_drop (hy ▸ List.mem_cons_self y a'))
  · rw [List.drop_eq_nil_of_le (by omega), List.nil_append] at hp
    by_cases hb' : x :: t <+: b.drop (j - a.length)
    · exact strstr_eq_none_iff.mp hb _ hb'
    · obtain ⟨y, hy, hyn⟩ := exists_head_mem_of_prefix_append hp hb'
      exact hc y hyn (List.mem_of_mem_drop (List.mem_of_mem_head? hy))

/-- **A needle that starts a line.** In `l ++ '\n' :: r`, with no newline in `l`, the needle
`'\n' :: k` is found at that newline when `r` starts with `k`, and otherwise only inside `r`. -/
theorem strstr_append_newline_cons {l r k : List Char} (hl : '\n' ∉ l) :
    strstr (l ++ '\n' :: r) ('\n' :: k) =
      if k <+: r then some l.length else (strstr r ('\n' :: k)).map (· + (l.length + 1)) := by
  induction l with
  | nil =>
    by_cases hk : k <+: r
    · rw [if_pos hk]; exact strstr_eq_zero_of_isPrefixOf (List.cons_prefix_cons.mpr ⟨rfl, hk⟩)
    · rw [if_neg hk, List.nil_append, strstr_cons_of_not_isPrefixOf (by simpa using hk)]; rfl
  | cons c l ih =>
    have hc : c ≠ '\n' := fun h => hl (h ▸ List.mem_cons_self c l)
    rw [List.cons_append, strstr_cons_of_not_isPrefixOf (by simp [Ne.symm hc]),
      ih fun h => hl (List.mem_cons_of_mem c h)]
    split <;> simp [Option.map_map, Function.comp_def, Nat.add_assoc]

/-! ## (2) Decimal printing and reading -/

/-- **`printf("%u", n)`**: the decimal digits of `n`, most significant first. -/
def decimal (n : Nat) : List Char := Nat.toDigits 10 n

/-- **Zero padding of `printf("%0wu")`**: `ds` preceded by zeros up to width `w`. -/
def zeroPad (w : Nat) (ds : List Char) : List Char := List.replicate (w - ds.length) '0' ++ ds

/-- **`printf("%d")`** of an `int`. -/
def intDecimal (n : Int) : List Char :=
  if n < 0 then '-' :: decimal n.natAbs else decimal n.toNat

/-- **`printf("%x")`**: lower-case hexadecimal digits. -/
def hexadecimal (n : Nat) : List Char := Nat.toDigits 16 n

/-- **The accumulation loop of `strtol`**: the value of a string of decimal digits. -/
def digitsValue (ds : List Char) : Nat :=
  ds.foldl (fun acc c => 10 * acc + (c.toNat - '0'.toNat)) 0

private theorem toDigitsCore_acc {b : Nat} (hb : 1 < b) (fuel n : Nat) (ds : List Char)
    (h : n < fuel) : Nat.toDigitsCore b fuel n ds = Nat.toDigitsCore b fuel n [] ++ ds := by
  induction fuel generalizing n ds with
  | zero => omega
  | succ fuel ih =>
    simp only [Nat.toDigitsCore]
    split
    · rfl
    · have hn : n / b < fuel := by
        have := Nat.div_lt_self (n := n) (Nat.pos_of_ne_zero fun h => by simp_all) hb; omega
      rw [ih _ _ hn, ih _ [_] hn, List.append_assoc, List.singleton_append]

private theorem toDigitsCore_fuel {b : Nat} (hb : 1 < b) (f₁ f₂ n : Nat) (h₁ : n < f₁)
    (h₂ : n < f₂) : Nat.toDigitsCore b f₁ n [] = Nat.toDigitsCore b f₂ n [] := by
  induction f₁ generalizing f₂ n with
  | zero => omega
  | succ f₁ ih =>
    obtain ⟨f₂, rfl⟩ : ∃ f, f₂ = f + 1 := ⟨f₂ - 1, by omega⟩
    simp only [Nat.toDigitsCore]
    split
    · rfl
    · have hn : n / b < n := Nat.div_lt_self (Nat.pos_of_ne_zero fun h => by simp_all) hb
      rw [toDigitsCore_acc hb _ _ _ (by omega), toDigitsCore_acc hb f₂ _ _ (by omega),
        ih f₂ _ (by omega) (by omega)]

/-- **Unfolding `Nat.toDigits`**: the digits of `n / b` (none when it is `0`), then the last
digit. -/
theorem toDigits_eq {b : Nat} (hb : 1 < b) (n : Nat) :
    Nat.toDigits b n = (if n < b then [] else Nat.toDigits b (n / b)) ++ [Nat.digitChar (n % b)] := by
  unfold Nat.toDigits
  rw [show n + 1 = n + 1 from rfl, Nat.toDigitsCore]
  split
  · rw [if_pos ((Nat.div_eq_zero_iff (by omega)).mp ‹_›)]; rfl
  · have hn : n / b < n := Nat.div_lt_self (Nat.pos_of_ne_zero fun h => by simp_all) hb
    rw [if_neg fun h => ‹¬ n / b = 0› ((Nat.div_eq_zero_iff (by omega)).mpr h),
      toDigitsCore_acc hb _ _ _ (by omega), toDigitsCore_fuel hb n (n / b + 1) _ (by omega)
        (by omega)]

/-- **Unfolding `decimal`**: the digits of `n / 10` (none when it is `0`), then the last digit. -/
theorem decimal_eq (n : Nat) :
    decimal n = (if n < 10 then [] else decimal (n / 10)) ++ [Nat.digitChar (n % 10)] :=
  toDigits_eq (by norm_num) n

theorem digitChar_isDigit {d : Nat} (h : d < 10) : (Nat.digitChar d).isDigit := by
  interval_cases d <;> rfl

theorem digitChar_value {d : Nat} (h : d < 10) : (Nat.digitChar d).toNat - '0'.toNat = d := by
  interval_cases d <;> rfl

/-- Every character `printf("%u")` writes is a digit. -/
theorem decimal_isDigit (n : Nat) : ∀ c ∈ decimal n, c.isDigit := by
  induction n using Nat.strong_induction_on with
  | _ n ih =>
    rw [decimal_eq]
    intro c hc
    rcases List.mem_append.mp hc with hc | hc
    · split at hc
      · simp at hc
      · exact ih (n / 10) (by omega) c hc
    · rw [List.mem_singleton.mp hc]
      exact digitChar_isDigit (Nat.mod_lt n (by omega))

theorem digitsValue_append_digit (ds : List Char) {d : Nat} (h : d < 10) :
    digitsValue (ds ++ [Nat.digitChar d]) = 10 * digitsValue ds + d := by
  simp only [digitsValue, List.foldl_append, List.foldl_cons, List.foldl_nil]
  rw [digitChar_value h]

/-- **Round trip**: reading back what `printf("%u")` writes gives the number. -/
theorem digitsValue_decimal (n : Nat) : digitsValue (decimal n) = n := by
  induction n using Nat.strong_induction_on with
  | _ n ih =>
    rw [decimal_eq, digitsValue_append_digit _ (Nat.mod_lt n (by omega))]
    split
    · simp [digitsValue]; omega
    · rw [ih (n / 10) (by omega)]; omega

theorem decimal_ne_nil (n : Nat) : decimal n ≠ [] := by
  rw [decimal_eq]; simp

/-- `printf("%u")` writes at most `k` digits for numbers below `10 ^ k`. -/
theorem decimal_length_le {n k : Nat} (hk : 0 < k) (h : n < 10 ^ k) : (decimal n).length ≤ k := by
  induction k generalizing n with
  | zero => omega
  | succ k ih =>
    rw [decimal_eq]
    split
    · simp
    · have hk' : 0 < k := by
        rcases Nat.eq_zero_or_pos k with rfl | hk'
        · simp at h; omega
        · exact hk'
      have := ih hk' (n := n / 10) (by rw [pow_succ] at h; omega)
      simp; omega

theorem digitsValue_replicate_zero (k : Nat) (ds : List Char) :
    digitsValue (List.replicate k '0' ++ ds) = digitsValue ds := by
  induction k with
  | zero => rfl
  | succ k ih =>
    simpa [digitsValue, List.replicate_succ, List.foldl_cons] using ih

theorem digitsValue_zeroPad (w n : Nat) : digitsValue (zeroPad w (decimal n)) = n := by
  rw [zeroPad, digitsValue_replicate_zero, digitsValue_decimal]

theorem zeroPad_isDigit (w n : Nat) : ∀ c ∈ zeroPad w (decimal n), c.isDigit := by
  intro c hc
  rcases List.mem_append.mp hc with hc | hc
  · rw [List.eq_of_mem_replicate hc]; rfl
  · exact decimal_isDigit n c hc

theorem zeroPad_length (w : Nat) (ds : List Char) :
    (zeroPad w ds).length = max w ds.length := by
  simp [zeroPad]; omega

/-- **The value `strtoul` gives a digit in base 16**, `none` for a character that is not one. -/
def hexDigitValue (c : Char) : Option Nat :=
  if c.isDigit then some (c.toNat - '0'.toNat)
  else if 'a' ≤ c ∧ c ≤ 'f' then some (c.toNat - 'a'.toNat + 10)
  else if 'A' ≤ c ∧ c ≤ 'F' then some (c.toNat - 'A'.toNat + 10)
  else none

/-- **`isxdigit`**. -/
def isHexDigit (c : Char) : Bool := (hexDigitValue c).isSome

/-- **The accumulation loop of `strtoul` in base 16.** -/
def hexDigitsValue (ds : List Char) : Nat :=
  ds.foldl (fun acc c => 16 * acc + (hexDigitValue c).getD 0) 0

theorem hexadecimal_eq (n : Nat) :
    hexadecimal n = (if n < 16 then [] else hexadecimal (n / 16)) ++ [Nat.digitChar (n % 16)] :=
  toDigits_eq (by norm_num) n

theorem hexDigitValue_digitChar {d : Nat} (h : d < 16) :
    hexDigitValue (Nat.digitChar d) = some d := by
  interval_cases d <;> decide

theorem hexadecimal_isHexDigit (n : Nat) : ∀ c ∈ hexadecimal n, isHexDigit c := by
  induction n using Nat.strong_induction_on with
  | _ n ih =>
    rw [hexadecimal_eq]
    intro c hc
    rcases List.mem_append.mp hc with hc | hc
    · split at hc
      · simp at hc
      · exact ih (n / 16) (by omega) c hc
    · rw [List.mem_singleton.mp hc, isHexDigit, hexDigitValue_digitChar (Nat.mod_lt n (by omega))]
      rfl

/-- **Round trip**: reading back what `printf("%x")` writes gives the number. -/
theorem hexDigitsValue_hexadecimal (n : Nat) : hexDigitsValue (hexadecimal n) = n := by
  induction n using Nat.strong_induction_on with
  | _ n ih =>
    rw [hexadecimal_eq]
    simp only [hexDigitsValue, List.foldl_append, List.foldl_cons, List.foldl_nil,
      hexDigitValue_digitChar (Nat.mod_lt n (by omega : 16 > 0)), Option.getD_some]
    split
    · simp; omega
    · rw [← hexDigitsValue, ih (n / 16) (by omega)]; omega

/-- `printf("%x")` of a non-zero number does not start with `0`. -/
theorem hexadecimal_head {n : Nat} (h : n ≠ 0) :
    ∃ d t, hexadecimal n = d :: t ∧ d ≠ '0' := by
  induction n using Nat.strong_induction_on with
  | _ n ih =>
    rw [hexadecimal_eq]
    by_cases hn : n < 16
    · refine ⟨Nat.digitChar (n % 16), [], by simp [hn], ?_⟩
      rw [Nat.mod_eq_of_lt hn]
      interval_cases n <;> first | omega | decide
    · obtain ⟨d, t, ht, hd⟩ := ih (n / 16) (by omega) (by omega)
      exact ⟨d, t ++ [Nat.digitChar (n % 16)], by simp [hn, ht], hd⟩

/-! ## (3) `strtol`, `atoi` and `sscanf` -/

/-- **`isspace`** in the C locale. -/
def isspace (c : Char) : Bool :=
  c == ' ' || c == '\t' || c == '\n' || c == '\x0B' || c == '\x0C' || c == '\r'

/-- **The optional sign `strtol` accepts**: `true` for a minus, and the text after the sign. -/
def strtolSign : List Char → Bool × List Char
  | '-' :: u => (true, u)
  | '+' :: u => (false, u)
  | u => (false, u)

theorem strtolSign_of_ne {c : Char} {u : List Char} (hm : c ≠ '-') (hp : c ≠ '+') :
    strtolSign (c :: u) = (false, c :: u) := by
  unfold strtolSign
  split <;> simp_all

/-- **The number syntax of `strtol` and of `scanf("%u")`**: after leading `isspace` characters and
an optional sign, the sign (`true` for a minus), the run of digits and the text after it. -/
def numberSyntax (s : List Char) : Bool × List Char × List Char :=
  let signed := strtolSign (s.dropWhile isspace)
  (signed.1, signed.2.takeWhile Char.isDigit, signed.2.dropWhile Char.isDigit)

/-- `LONG_MIN` and `LONG_MAX` of the 64-bit `long`. -/
def longMin : Int := -2 ^ 63

def longMax : Int := 2 ^ 63 - 1

/-- **`strtol(s, &end, 10)`**: the value, clamped to `[LONG_MIN, LONG_MAX]` as glibc returns it on
overflow, and the text left at `end`. Without any digit no conversion is made and `end` is `s`. -/
def strtol (s : List Char) : Int × List Char :=
  match numberSyntax s with
  | (neg, ds, rest) =>
    if ds.isEmpty then (0, s)
    else (max longMin (min longMax (if neg then -(digitsValue ds : Int) else digitsValue ds)), rest)

/-- **`atoi(s)`**, which glibc defines as `(int) strtol(s, NULL, 10)`: the conversion to the 32-bit
`int` keeps the value modulo `2 ^ 32`. -/
def atoi (s : List Char) : Int := Int.bmod (strtol s).1 (2 ^ 32)

/-- **One `%u` conversion of `sscanf`**: the number syntax of `strtol`, converted as glibc does with
`strtoul` (`ULONG_MAX` on overflow, a minus negating modulo `2 ^ 64`) and stored in an `unsigned int`;
`none` is a matching failure. -/
def scanUnsigned (s : List Char) : Option (Nat × List Char) :=
  match numberSyntax s with
  | (neg, ds, rest) =>
    if ds.isEmpty then none
    else
      let v := digitsValue ds
      some ((if 2 ^ 64 ≤ v then 2 ^ 64 - 1 else if neg then (2 ^ 64 - v) % 2 ^ 64 else v) % 2 ^ 32,
        rest)

/-- **`0x` before the digits of `%x`**, which `strtoul` in base 16 skips. -/
def hexPrefix : List Char → List Char
  | '0' :: 'x' :: r => r
  | '0' :: 'X' :: r => r
  | r => r

/-- **One `%x` conversion of `sscanf`**: `strtoul` in base 16 after leading `isspace` characters, an
optional sign and an optional `0x`, stored in an `unsigned int`; `none` is a matching failure. A `0x`
with no hexadecimal digit after it is a failure here where glibc reads a `0`; both leave a zero
field. -/
def scanHex (s : List Char) : Option Nat :=
  match strtolSign (s.dropWhile isspace) with
  | (neg, body) =>
    let ds := (hexPrefix body).takeWhile isHexDigit
    if ds.isEmpty then none
    else
      let v := hexDigitsValue ds
      some ((if 2 ^ 64 ≤ v then 2 ^ 64 - 1 else if neg then (2 ^ 64 - v) % 2 ^ 64 else v) % 2 ^ 32)

/-- **`sscanf(s, "%s", buf)`**: the first whitespace-delimited token, `none` when the input holds
none. -/
def scanToken (s : List Char) : Option (List Char) :=
  match (s.dropWhile isspace).takeWhile (fun c => !isspace c) with
  | [] => none
  | tok => some tok

theorem isspace_of_isDigit {c : Char} (h : c.isDigit) : isspace c = false := by
  simp only [isspace, Bool.or_eq_false_iff, beq_eq_false_iff_ne]
  refine ⟨⟨⟨⟨⟨?_, ?_⟩, ?_⟩, ?_⟩, ?_⟩, ?_⟩ <;> rintro rfl <;> revert h <;> decide

/-- **The number syntax of a digit string**: a non-empty run of digits, followed by text that does
not start with a digit, is read as an unsigned run with that text after it. -/
theorem numberSyntax_digits_append {ds rest : List Char} (hd : ∀ c ∈ ds, c.isDigit) (hne : ds ≠ [])
    (hr : ∀ c ∈ rest.head?, c.isDigit = false) : numberSyntax (ds ++ rest) = (false, ds, rest) := by
  obtain ⟨d, ds', rfl⟩ := List.exists_cons_of_ne_nil hne
  have hd0 : d.isDigit := hd d (List.mem_cons_self _ _)
  have hdm : d ≠ '-' := fun h => by subst h; exact absurd hd0 (by decide)
  have hdp : d ≠ '+' := fun h => by subst h; exact absurd hd0 (by decide)
  have htake : (d :: ds' ++ rest).takeWhile Char.isDigit = d :: ds' := by
    rw [List.takeWhile_append_of_pos hd]
    cases rest with
    | nil => simp
    | cons r rest => simp [List.takeWhile_cons, hr r rfl]
  have hdrop : (d :: ds' ++ rest).dropWhile Char.isDigit = rest := by
    rw [List.dropWhile_append_of_pos hd]
    cases rest with
    | nil => simp
    | cons r rest => simp [List.dropWhile_cons, hr r rfl]
  have hsp : (d :: ds' ++ rest).dropWhile isspace = d :: ds' ++ rest := by
    simp [List.dropWhile_cons, isspace_of_isDigit hd0]
  simp only [numberSyntax, hsp]
  rw [List.cons_append, strtolSign_of_ne hdm hdp, ← List.cons_append, htake, hdrop]

/-- **`strtol` on a digit string** converts its value and leaves `end` after the digits. -/
theorem strtol_digits_append {ds rest : List Char} (hd : ∀ c ∈ ds, c.isDigit) (hne : ds ≠ [])
    (hr : ∀ c ∈ rest.head?, c.isDigit = false) (hv : digitsValue ds < 2 ^ 63) :
    strtol (ds ++ rest) = ((digitsValue ds : Int), rest) := by
  have hclamp : max longMin (min longMax (digitsValue ds : Int)) = digitsValue ds := by
    simp only [longMin, longMax]; omega
  simp [strtol, numberSyntax_digits_append hd hne hr, List.isEmpty_iff, hne, hclamp]

/-- **`strtol` stops after the digits**, whatever their value. -/
theorem strtol_snd_digits_append {ds rest : List Char} (hd : ∀ c ∈ ds, c.isDigit) (hne : ds ≠ [])
    (hr : ∀ c ∈ rest.head?, c.isDigit = false) : (strtol (ds ++ rest)).2 = rest := by
  simp [strtol, numberSyntax_digits_append hd hne hr, List.isEmpty_iff, hne]

/-- **`%u` on a digit string** converts its value and leaves the text after the digits. -/
theorem scanUnsigned_digits_append {ds rest : List Char} (hd : ∀ c ∈ ds, c.isDigit) (hne : ds ≠ [])
    (hr : ∀ c ∈ rest.head?, c.isDigit = false) (hv : digitsValue ds < 2 ^ 32) :
    scanUnsigned (ds ++ rest) = some (digitsValue ds, rest) := by
  simp only [scanUnsigned, numberSyntax_digits_append hd hne hr, List.isEmpty_iff, hne,
    ↓reduceIte, Bool.false_eq_true, Option.some.injEq, Prod.mk.injEq, and_true]
  rw [if_neg (by omega), Nat.mod_eq_of_lt hv]

/-- The conversion to `int` keeps every value of its range. -/
theorem bmod_int_of_lt {v : Int} (h0 : 0 ≤ v) (h : v < 2 ^ 31) : Int.bmod v (2 ^ 32) = v := by
  rw [Int.bmod_def, Int.emod_eq_of_lt h0 (by omega), if_pos (by omega)]

theorem atoi_digits_append {ds rest : List Char} (hd : ∀ c ∈ ds, c.isDigit) (hne : ds ≠ [])
    (hr : ∀ c ∈ rest.head?, c.isDigit = false) (hv : digitsValue ds < 2 ^ 31) :
    atoi (ds ++ rest) = digitsValue ds := by
  rw [atoi, strtol_digits_append hd hne hr (by omega)]
  exact bmod_int_of_lt (by omega) (by simp only; omega)

theorem isspace_of_isHexDigit {c : Char} (h : isHexDigit c) : isspace c = false := by
  cases hs : isspace c
  · rfl
  · simp only [isspace, Bool.or_eq_true, beq_iff_eq] at hs
    rcases hs with ((((rfl | rfl) | rfl) | rfl) | rfl) | rfl <;> exact absurd h (by decide)

/-- **`%x` on what `printf("%x")` wrote** reads the number back. -/
theorem scanHex_hexadecimal_append {n : Nat} (h0 : n ≠ 0) (hn : n < 2 ^ 32) {rest : List Char}
    (hr : ∀ c ∈ rest.head?, isHexDigit c = false) : scanHex (hexadecimal n ++ rest) = some n := by
  obtain ⟨d, t, ht, hd⟩ := hexadecimal_head h0
  have hdx : isHexDigit d := hexadecimal_isHexDigit n d (ht ▸ List.mem_cons_self d t)
  have hdm : d ≠ '-' := fun h => by subst h; exact absurd hdx (by decide)
  have hdp : d ≠ '+' := fun h => by subst h; exact absurd hdx (by decide)
  have htake : (hexadecimal n ++ rest).takeWhile isHexDigit = hexadecimal n := by
    rw [List.takeWhile_append_of_pos (hexadecimal_isHexDigit n)]
    cases rest with
    | nil => simp
    | cons r rest => simp [List.takeWhile_cons, hr r rfl]
  have hpre : hexPrefix (hexadecimal n ++ rest) = hexadecimal n ++ rest := by
    rw [ht, List.cons_append]
    unfold hexPrefix
    split <;> simp_all
  have hsp : (hexadecimal n ++ rest).dropWhile isspace = hexadecimal n ++ rest := by
    rw [ht, List.cons_append, List.dropWhile_cons_of_neg (by simp [isspace_of_isHexDigit hdx])]
  have hne : (hexadecimal n).isEmpty = false := by simp [ht]
  simp only [scanHex, hsp]
  rw [ht, List.cons_append, strtolSign_of_ne hdm hdp, ← List.cons_append, ← ht]
  simp only [hpre, htake, hne, hexDigitsValue_hexadecimal, Bool.false_eq_true, if_false]
  rw [if_neg (by omega), Nat.mod_eq_of_lt hn]

/-! ## (4) Stores into a block -/

section Overwrite

variable {α : Type} {buf src : List α} {off : Nat}

/-- **A store into a block**, as `memcpy(buf + off, src, n)` and `memset` make it when it lands
inside `buf`: `src` replaces the slots from offset `off` on. -/
def overwrite (buf : List α) (off : Nat) (src : List α) : List α :=
  buf.take off ++ src ++ buf.drop (off + src.length)

@[simp] theorem length_overwrite (h : off + src.length ≤ buf.length) :
    (overwrite buf off src).length = buf.length := by
  simp only [overwrite, List.length_append, List.length_take, List.length_drop]
  omega

/-- What lies before the store stays. -/
theorem take_overwrite_of_le {k : Nat} (hk : k ≤ off) (h : off ≤ buf.length) :
    (overwrite buf off src).take k = buf.take k := by
  rw [overwrite, List.append_assoc, List.take_append_of_le_length (by simp; omega),
    List.take_take, Nat.min_eq_left hk]

/-- The store reads back after what lay before it. -/
theorem take_overwrite_self (h : off ≤ buf.length) :
    (overwrite buf off src).take (off + src.length) = buf.take off ++ src := by
  have hoff : (buf.take off).length = off := by simp [h]
  rw [overwrite, List.take_append_eq_append_take, List.take_of_length_le (by simp [hoff]),
    List.length_append, hoff, Nat.sub_self, List.take_zero, List.append_nil]

theorem getElem?_overwrite_single {c : α} (h : off < buf.length) :
    (overwrite buf off [c])[off]? = some c := by
  have hoff : (buf.take off).length = off := by simp; omega
  rw [overwrite, List.append_assoc, List.getElem?_append_right (by omega), hoff, Nat.sub_self]
  simp

/-- A store that covers the whole tail of a block replaces it. -/
theorem overwrite_append_of_length_le {xs ys : List α} (h : ys.length ≤ src.length) :
    overwrite (xs ++ ys) xs.length src = xs ++ src := by
  rw [overwrite, List.take_left, List.drop_append_eq_append_drop, List.drop_of_length_le (by omega),
    List.drop_of_length_le (by simp; omega), List.append_nil, List.append_nil]

end Overwrite

end TracerouteSimulator
