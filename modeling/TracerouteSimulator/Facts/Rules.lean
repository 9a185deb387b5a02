import TracerouteSimulator.Facts.Router
import TracerouteSimulator.Facts.Section

/-! # Policy rules

`parse_rules_section` reads the `policy_rules` section line by line. A leading `%d:` makes a rule;
each field is then found by `strstr` for its keyword followed by a space, and read with
`sscanf("%s")`, `"0x%x"` for `fwmark`, or `atoi` for `sport` and `dport`. The `tos` field it also
reads is replayed by neither setup and is left out.

* **`parseRuleLine`**, **`parseRulesSection`** — the parser.
* **`textAfter`** — in words joined by spaces, the first `k ++ " "` ends the first word, other than
  the last, that ends with `k` (`strstr_keyword`). A keyword is therefore also found at the end of
  any word before its clause: `ipproto` ends with `to`.
* **`RuleLine`** — a line of the `ip rule show` grammar; `parseRuleLine_text` reads it back field by
  field when no token ends with a keyword and an `ipproto` clause follows a `to` clause; the ports
  are read by `atoi` after their keywords (`portField`). -/

namespace TracerouteSimulator.Facts

/-! ## (1) `parse_rules_section` -/

/-- **`sscanf(line, "%d:", &priority) == 1`**: the `int` a leading number gives. -/
def scanInt (s : List Char) : Option Int :=
  if (numberSyntax s).2.1.isEmpty then none else some (atoi s)

/-- **A keyword's field**: after the first `key` (which ends with a space), the token
`sscanf("%s")` reads, or the empty text it leaves in the zeroed buffer when there is none. -/
def fieldToken (line key : List Char) : Option (List Char) :=
  (strstr line key).map fun i => (scanToken (line.drop (i + key.length))).getD []

/-- **A port field**: `atoi` of the text after the first `key`, or the zero of the `calloc`ed
rule when the line has no `key`. -/
def portField (line key : List Char) : Int :=
  ((strstr line key).map fun i => atoi (line.drop (i + key.length))).getD 0

/-- **`sscanf(s, "0x%x", &rule->fwmark)`**: the literal `0x`, then one `%x`. -/
def scanHexLiteral : List Char → Option Nat
  | '0' :: 'x' :: rest => scanHex rest
  | _ => none

/-- **One line of `parse_rules_section`**, `none` for a line it skips. -/
def parseRuleLine (line : List Char) : Option Rule :=
  if line = [] ∨ (strstr line "EXIT_CODE:".toList).isSome then none
  else
    (scanInt line).map fun priority =>
      { priority
        src := (fieldToken line "from ".toList).bind fun s =>
          if s = "all".toList then none else some s
        dst := fieldToken line "to ".toList
        table := fieldToken line "lookup ".toList
        fwmark := ((strstr line "fwmark ".toList).bind fun i =>
          scanHexLiteral (line.drop (i + 7))).getD 0
        iif := fieldToken line "iif ".toList
        oif := fieldToken line "oif ".toList
        sport := portField line "sport ".toList
        dport := portField line "dport ".toList }

/-- **`parse_rules_section`**: the rules of the `policy_rules` section in order, none without the
section. -/
def parseRulesSection (content : List Char) : List Rule :=
  match findSection content "policy_rules".toList with
  | none => []
  | some body => (strtokLines body).filterMap parseRuleLine

theorem isspace_of_isTrailingSpace {c : Char} (h : isTrailingSpace c) : isspace c := by
  simp only [isTrailingSpace, Bool.or_eq_true, beq_iff_eq] at h
  rcases h with ((rfl | rfl) | rfl) | rfl <;> rfl

/-- A line of trailing whitespace holds no number. -/
theorem scanInt_of_blank {l : List Char} (h : ∀ c ∈ l, isTrailingSpace c) : scanInt l = none := by
  have hd : l.dropWhile isspace = [] :=
    List.dropWhile_eq_nil_iff.mpr fun c hc => isspace_of_isTrailingSpace (h c hc)
  simp [scanInt, numberSyntax, hd, strtolSign]

theorem parseRuleLine_exitLine (n : Nat) : parseRuleLine (exitLine n) = none := by
  rw [parseRuleLine, if_pos (Or.inr (by
    rw [exitLine, strstr_eq_zero_of_isPrefixOf (List.prefix_append _ _)]; rfl))]

/-! ## (2) Keywords in words

A rule line is words separated by single spaces, and every keyword the parser looks for is
followed by a space. -/

/-- **What follows the first `k ++ " "`** in words joined by spaces: the rest of the line after the
first word, other than the last, that ends with `k`. -/
def textAfter (k : List Char) : List (List Char) → Option (List Char)
  | [] => none
  | [_] => none
  | w :: w' :: ws => if k <:+ w then some (List.intercalate [' '] (w' :: ws)) else textAfter k (w' :: ws)

theorem textAfter_cons_of_not_suffix {k w : List Char} (h : ¬ k <:+ w) (ws : List (List Char)) :
    textAfter k (w :: ws) = textAfter k ws := by
  match ws with
  | [] => rfl
  | [_] => simp [textAfter, h]
  | _ :: _ :: _ => simp [textAfter, h]

theorem intercalate_cons_cons (w w' : List Char) (ws : List (List Char)) :
    List.intercalate [' '] (w :: w' :: ws) = w ++ ' ' :: List.intercalate [' '] (w' :: ws) := by
  simp [List.intercalate]

/-- A word and its separator matched against a needle ending with the separator: the needle's
part before the separator is the word's rest. -/
theorem eq_of_prefix_append_sep {c : Char} : ∀ {k v r : List Char}, c ∉ k → c ∉ v →
    k ++ [c] <+: v ++ c :: r → k = v
  | [], [], _, _, _, _ => rfl
  | [], x :: v, _, _, hv, h => by
    simp only [List.nil_append, List.cons_append, List.cons_prefix_cons] at h
    exact absurd (h.1 ▸ List.mem_cons_self x v) hv
  | a :: k, [], _, hk, _, h => by
    simp only [List.cons_append, List.nil_append, List.cons_prefix_cons] at h
    exact absurd (h.1 ▸ List.mem_cons_self a k) hk
  | a :: k, x :: v, _, hk, hv, h => by
    simp only [List.cons_append, List.cons_prefix_cons] at h
    rw [h.1, eq_of_prefix_append_sep (fun h' => hk (List.mem_cons_of_mem a h'))
      (fun h' => hv (List.mem_cons_of_mem x h')) h.2]

/-- **One word.** `k ++ " "` is found at the end of the first word when the word ends with `k`,
and otherwise only after the word's space. -/
theorem strstr_word_space {k w r : List Char} (hk : ' ' ∉ k) (hw : ' ' ∉ w) :
    strstr (w ++ ' ' :: r) (k ++ [' ']) =
      if k <:+ w then some (w.length - k.length)
      else (strstr r (k ++ [' '])).map (· + (w.length + 1)) := by
  have key : ∀ j ≤ w.length, k ++ [' '] <+: (w ++ ' ' :: r).drop j → k = w.drop j :=
    fun j hj h => eq_of_prefix_append_sep hk (fun hm => hw (List.mem_of_mem_drop hm))
      (by rwa [List.drop_append_of_le_length hj] at h)
  split
  · next hs =>
    obtain ⟨u, rfl⟩ := hs
    refine strstr_eq_some_iff.mpr ⟨?_, fun j hj h => ?_⟩
    · rw [show (u ++ k).length - k.length = u.length by simp, List.append_assoc,
        List.drop_left' rfl]
      simp
    · simp only [List.length_append, Nat.add_sub_cancel] at hj
      have := congrArg List.length (key j (by simp only [List.length_append]; omega) h)
      simp only [List.length_drop, List.length_append] at this
      omega
  · next hs =>
    rw [show w ++ ' ' :: r = (w ++ [' ']) ++ r by simp, strstr_append_of_forall, List.length_append,
      List.length_singleton]
    intro j hj h
    rw [← show w ++ ' ' :: r = (w ++ [' ']) ++ r by simp] at h
    exact hs (key j (by simp at hj; omega) h ▸ List.drop_suffix j w)

/-- **Keyword search over words**: the text `strstr` leaves after `k ++ " "` is `textAfter`. -/
theorem strstr_keyword {k : List Char} (hk : ' ' ∉ k) :
    ∀ {ws : List (List Char)}, (∀ w ∈ ws, ' ' ∉ w) →
      (strstr (List.intercalate [' '] ws) (k ++ [' '])).map
        (fun p => (List.intercalate [' '] ws).drop (p + (k ++ [' ']).length)) = textAfter k ws
  | [], _ => by
    rw [show strstr (List.intercalate [' '] []) (k ++ [' ']) = none from
      strstr_eq_none_of_not_mem (List.mem_append_right k (List.mem_singleton_self ' '))
        (List.not_mem_nil _)]
    rfl
  | [w], hws => by
    rw [show List.intercalate [' '] [w] = w by simp [List.intercalate],
      strstr_eq_none_of_not_mem (List.mem_append_right k (List.mem_singleton_self ' '))
        (hws w (List.mem_singleton_self w))]
    rfl
  | w :: w' :: ws, hws => by
    have hw := hws w (List.mem_cons_self w _)
    rw [intercalate_cons_cons, strstr_word_space hk hw, textAfter]
    split
    · next hs =>
      have := hs.length_le
      simp only [Option.map_some', List.length_append, List.length_singleton]
      rw [show w.length - k.length + (k.length + 1) = w.length + 1 by omega,
        show w ++ ' ' :: List.intercalate [' '] (w' :: ws) =
          (w ++ [' ']) ++ List.intercalate [' '] (w' :: ws) by simp, List.drop_left' (by simp)]
    · rw [← strstr_keyword hk fun x hx => hws x (List.mem_cons_of_mem w hx), Option.map_map]
      congr 1
      funext p
      simp only [Function.comp_apply, List.length_append, List.length_singleton]
      rw [show p + (w.length + 1) + (k.length + 1) = (w ++ [' ']).length + (p + (k.length + 1)) by
        simp; omega, show w ++ ' ' :: List.intercalate [' '] (w' :: ws) =
          (w ++ [' ']) ++ List.intercalate [' '] (w' :: ws) by simp, List.drop_append]

/-- **`sscanf("%s")` on words**: the first word, when it is a non-empty word without whitespace. -/
theorem scanToken_intercalate {v : List Char} (hne : v ≠ []) (hv : ∀ c ∈ v, isspace c = false)
    (ws : List (List Char)) : scanToken (List.intercalate [' '] (v :: ws)) = some v := by
  obtain ⟨x, v', rfl⟩ := List.exists_cons_of_ne_nil hne
  have hrest : ∀ r : List Char, (∀ c ∈ r.head?, isspace c = true) →
      scanToken (x :: v' ++ r) = some (x :: v') := by
    intro r hr
    have hx := hv x (List.mem_cons_self x v')
    have htake : (x :: v' ++ r).takeWhile (fun c => !isspace c) = x :: v' := by
      rw [List.takeWhile_append_of_pos (by simpa using hv)]
      cases r with
      | nil => simp
      | cons c r => simp [List.takeWhile_cons, hr c rfl]
    rw [scanToken, List.cons_append, List.dropWhile_cons_of_neg (by simp [hx]), ← List.cons_append,
      htake]
  cases ws with
  | nil =>
    rw [show List.intercalate [' '] [x :: v'] = x :: v' ++ [] by simp [List.intercalate]]
    exact hrest [] (by simp)
  | cons w ws => rw [intercalate_cons_cons]; exact hrest _ (by simp; rfl)

/-! ## (3) The lines of `ip rule show` -/

/-- **One clause** `kw v` of a rule line, when the rule has the field. -/
def clause (kw : List Char) (o : Option (List Char)) : List (List Char × List Char) :=
  (o.map fun v => (kw, v)).toList

/-- The words of clauses, keyword then value. -/
def clauseWords (cl : List (List Char × List Char)) : List (List Char) :=
  cl.flatMap fun c => [c.1, c.2]

/-- **A line of `ip rule show`** with the fields of the grammar
`P:<TAB>from S [to D] [tos 0xH] [fwmark 0xM] [iif I] [oif O] [ipproto X] [sport N] [dport N] lookup T`.
-/
structure RuleLine where
  /-- `P`. -/
  priority : Nat
  /-- `S`, possibly `all`. -/
  src : List Char
  /-- `to D`. -/
  dst : Option (List Char)
  /-- The hexadecimal digits of `tos 0xH`. -/
  tos : Option (List Char)
  /-- `fwmark 0xM`. -/
  fwmark : Option Nat
  /-- `iif I`. -/
  iif : Option (List Char)
  /-- `oif O`. -/
  oif : Option (List Char)
  /-- `ipproto X`. -/
  ipproto : Option (List Char)
  /-- `sport N`. -/
  sport : Option (List Char)
  /-- `dport N`. -/
  dport : Option (List Char)
  /-- `lookup T`. -/
  table : List Char
  deriving DecidableEq, Repr

/-- The clauses after `from S`, in the order `ip` prints them. -/
def RuleLine.clauses (r : RuleLine) : List (List Char × List Char) :=
  clause "to".toList r.dst ++ clause "tos".toList (r.tos.map ("0x".toList ++ ·)) ++
    clause "fwmark".toList (r.fwmark.map fun m => "0x".toList ++ hexadecimal m) ++
    clause "iif".toList r.iif ++ clause "oif".toList r.oif ++ clause "ipproto".toList r.ipproto ++
    clause "sport".toList r.sport ++ clause "dport".toList r.dport ++
    clause "lookup".toList (some r.table)

/-- The first word, `P:<TAB>from`. -/
def RuleLine.head (r : RuleLine) : List Char := decimal r.priority ++ ":\tfrom".toList

/-- **The line as `ip rule show` prints it.** -/
def RuleLine.text (r : RuleLine) : List Char :=
  List.intercalate [' '] (r.head :: r.src :: clauseWords r.clauses)

/-- The tokens of a line: `S` and every clause's value. -/
def RuleLine.tokens (r : RuleLine) : List (List Char) := r.src :: r.clauses.map Prod.snd

/-- The keywords `parse_rules_section` looks for. -/
def ruleKeywords : List (List Char) :=
  ["from".toList, "to".toList, "lookup".toList, "fwmark".toList, "iif".toList, "oif".toList]

/-- **The lines the parser reads back.** The priority fits an `int` and the mark an
`unsigned int`; tokens are non-empty, hold no whitespace and end with no keyword; and an `ipproto`
clause, whose keyword ends with `to`, comes after a `to` clause. -/
structure RuleLine.Ok (r : RuleLine) : Prop where
  priority_lt : r.priority < 2 ^ 31
  fwmark_ok : ∀ m ∈ r.fwmark, m ≠ 0 ∧ m < 2 ^ 32
  token_ne : ∀ t ∈ r.tokens, t ≠ []
  token_space : ∀ t ∈ r.tokens, ∀ c ∈ t, isspace c = false
  token_keyword : ∀ t ∈ r.tokens, ∀ k ∈ ruleKeywords, ¬ k <:+ t
  ipproto_dst : r.ipproto.isSome → r.dst.isSome

instance (r : RuleLine) : Decidable r.Ok :=
  decidable_of_iff (r.priority < 2 ^ 31 ∧ (∀ m ∈ r.fwmark, m ≠ 0 ∧ m < 2 ^ 32) ∧
      (∀ t ∈ r.tokens, t ≠ []) ∧ (∀ t ∈ r.tokens, ∀ c ∈ t, isspace c = false) ∧
      (∀ t ∈ r.tokens, ∀ k ∈ ruleKeywords, ¬ k <:+ t) ∧ (r.ipproto.isSome → r.dst.isSome))
    ⟨fun ⟨a, b, c, d, e, f⟩ => ⟨a, b, c, d, e, f⟩, fun ⟨a, b, c, d, e, f⟩ => ⟨a, b, c, d, e, f⟩⟩

/-- **The rule the line describes**, with the fields the setups replay. The ports are what
`atoi` reads after the first `sport ` and `dport ` of the line: the grammar leaves a port's text
free (a number, or a range such as `1000-2000`, read as `1000`). -/
def RuleLine.rule (r : RuleLine) : Rule :=
  { priority := r.priority
    src := if r.src = "all".toList then none else some r.src
    dst := r.dst
    fwmark := r.fwmark.getD 0
    iif := r.iif
    oif := r.oif
    table := some r.table
    sport := portField r.text "sport ".toList
    dport := portField r.text "dport ".toList }

theorem fst_of_mem_clause {kw : List Char} {o : Option (List Char)} {c : List Char × List Char}
    (h : c ∈ clause kw o) : c.1 = kw := by
  cases o <;> simp_all [clause]

theorem find?_clause {k kw : List Char} (o : Option (List Char)) :
    (clause kw o).find? (fun c => decide (k <:+ c.1)) =
      if k <:+ kw then o.map fun v => (kw, v) else none := by
  cases o <;> by_cases h : k <:+ kw <;> simp [clause, h]

/-- **Clauses searched by keyword**: the field read after `k ++ " "` is the one read from the
value of the first clause whose keyword ends with `k`, when no value ends with `k` and the reader
looks at one word. -/
theorem textAfter_clauseWords {β : Type} {k : List Char} {f : List Char → β} :
    ∀ {cl : List (List Char × List Char)}, (∀ c ∈ cl, ¬ k <:+ c.2) →
      (∀ c ∈ cl, k <:+ c.1 → ∀ ws, f (List.intercalate [' '] (c.2 :: ws)) = f c.2) →
      (textAfter k (clauseWords cl)).map f = (cl.find? fun c => decide (k <:+ c.1)).map (f ∘ Prod.snd)
  | [], _, _ => rfl
  | (kw, v) :: cl, hv, hf => by
    have hcw : clauseWords ((kw, v) :: cl) = kw :: v :: clauseWords cl := rfl
    by_cases hk : k <:+ kw
    · rw [hcw, textAfter, if_pos hk, List.find?_cons_of_pos _ (by simpa using hk), Option.map_some',
        hf (kw, v) (List.mem_cons_self _ _) hk]
      rfl
    · rw [hcw, textAfter_cons_of_not_suffix hk,
        textAfter_cons_of_not_suffix (hv (kw, v) (List.mem_cons_self _ _)),
        List.find?_cons_of_neg _ (by simpa using hk)]
      exact textAfter_clauseWords (fun c hc => hv c (List.mem_cons_of_mem _ hc))
        fun c hc => hf c (List.mem_cons_of_mem _ hc)

/-! ## (4) Reading a rule line back -/

/-- The keywords of the clauses after `from S`. -/
def clauseKeywords : List (List Char) :=
  ["to".toList, "tos".toList, "fwmark".toList, "iif".toList, "oif".toList, "ipproto".toList,
    "sport".toList, "dport".toList, "lookup".toList]

section
variable {r : RuleLine}

theorem RuleLine.mem_clauses {c : List Char × List Char} (h : c ∈ r.clauses) :
    c.1 ∈ clauseKeywords ∧ c.2 ∈ r.tokens ∧
      (c.1 = "fwmark".toList → ∃ m ∈ r.fwmark, c.2 = "0x".toList ++ hexadecimal m) := by
  refine ⟨?_, List.mem_cons_of_mem _ (List.mem_map_of_mem _ h), fun hc => ?_⟩
  · simp only [RuleLine.clauses, List.mem_append] at h
    rcases h with (((((((h | h) | h) | h) | h) | h) | h) | h) | h <;>
      (rw [fst_of_mem_clause h]; decide)
  · simp only [RuleLine.clauses, List.mem_append] at h
    rcases h with (((((((h | h) | h) | h) | h) | h) | h) | h) | h
    all_goals first
      | exact absurd (hc.symm.trans (fst_of_mem_clause h)) (by decide)
      | skip
    simp only [clause, Option.map_map, Option.mem_toList, Option.mem_def, Option.map_eq_some',
      Function.comp_apply] at h
    obtain ⟨m, hm, rfl⟩ := h
    exact ⟨m, hm, rfl⟩

theorem RuleLine.words_space (hok : r.Ok) :
    ∀ w ∈ r.head :: r.src :: clauseWords r.clauses, ' ' ∉ w := by
  have htok : ∀ t ∈ r.tokens, ' ' ∉ t := fun t ht hs =>
    absurd (hok.token_space t ht ' ' hs) (by decide)
  have hkw : ∀ kw ∈ clauseKeywords, ' ' ∉ kw := by decide
  intro w hw
  simp only [List.mem_cons, clauseWords, List.mem_flatMap, List.mem_singleton, List.not_mem_nil,
    or_false] at hw
  rcases hw with rfl | rfl | ⟨c, hc, rfl | rfl⟩
  · intro h
    rcases List.mem_append.mp h with h | h
    · exact absurd (decimal_isDigit _ _ h) (by decide)
    · exact absurd h (by decide)
  · exact htok _ (List.mem_cons_self _ _)
  · exact hkw _ (r.mem_clauses hc).1
  · exact htok _ (r.mem_clauses hc).2.1

/-- `sscanf("%s")` on a word alone. -/
theorem scanToken_of_word {v : List Char} (hne : v ≠ []) (hv : ∀ c ∈ v, isspace c = false) :
    scanToken v = some v := by
  simpa [List.intercalate] using scanToken_intercalate hne hv []

/-- A word and the rest of its line: nothing, or a space and more. -/
theorem intercalate_cons_eq (v : List Char) (ws : List (List Char)) :
    ∃ rest, List.intercalate [' '] (v :: ws) = v ++ rest ∧ ∀ c ∈ rest.head?, c = ' ' := by
  cases ws with
  | nil => exact ⟨[], by simp [List.intercalate], by simp⟩
  | cons w ws => exact ⟨_, intercalate_cons_cons v w ws, by simp⟩

/-- **A keyword's field in a rule line**, through `textAfter`. -/
theorem RuleLine.fieldToken_text (hok : r.Ok) {k : List Char} (hk : ' ' ∉ k) :
    fieldToken r.text (k ++ [' ']) =
      (textAfter k (r.head :: r.src :: clauseWords r.clauses)).map fun t => (scanToken t).getD [] := by
  rw [fieldToken, RuleLine.text, ← strstr_keyword hk (r.words_space hok), Option.map_map]
  rfl

/-- A keyword of a clause is not at the end of the first word nor of `S`. -/
theorem RuleLine.textAfter_clause (hok : r.Ok) {k : List Char} (hk : k ∈ ruleKeywords)
    (hhead : ¬ k <:+ ":\tfrom".toList) (hlen : k.length ≤ 6) :
    textAfter k (r.head :: r.src :: clauseWords r.clauses) = textAfter k (clauseWords r.clauses) := by
  rw [textAfter_cons_of_not_suffix (w := r.head) fun h => hhead (List.suffix_of_suffix_length_le h
      (List.suffix_append (decimal r.priority) _) (by simpa using hlen)),
    textAfter_cons_of_not_suffix (hok.token_keyword _ (List.mem_cons_self _ _) k hk)]

/-- **A clause's field**: the value of the first clause whose keyword ends with `k`. -/
theorem RuleLine.fieldToken_clause (hok : r.Ok) {k : List Char} (hk : k ∈ ruleKeywords)
    (hsp : ' ' ∉ k) (hhead : ¬ k <:+ ":\tfrom".toList) (hlen : k.length ≤ 6) :
    fieldToken r.text (k ++ [' ']) = (r.clauses.find? fun c => decide (k <:+ c.1)).map Prod.snd := by
  have hword : ∀ c ∈ r.clauses, ∀ ws,
      (scanToken (List.intercalate [' '] (c.2 :: ws))).getD [] = c.2 := fun c hc ws => by
    rw [scanToken_intercalate (hok.token_ne _ (r.mem_clauses hc).2.1)
      (hok.token_space _ (r.mem_clauses hc).2.1)]
    rfl
  have hone : ∀ c ∈ r.clauses, (scanToken c.2).getD [] = c.2 := fun c hc => by
    simpa [List.intercalate] using hword c hc []
  rw [r.fieldToken_text hok hsp, r.textAfter_clause hok hk hhead hlen,
    textAfter_clauseWords (fun c hc => hok.token_keyword _ (r.mem_clauses hc).2.1 k hk)
      fun c hc _ ws => (hword c hc ws).trans (hone c hc).symm]
  cases h : r.clauses.find? fun c => decide (k <:+ c.1) with
  | none => rfl
  | some c => simpa using hone c (List.mem_of_find?_eq_some h)

theorem RuleLine.fieldToken_from (hok : r.Ok) : fieldToken r.text "from ".toList = some r.src := by
  rw [show "from ".toList = "from".toList ++ [' '] from rfl, r.fieldToken_text hok (by decide),
    textAfter, if_pos (show "from".toList <:+ r.head from
      (by decide : "from".toList <:+ ":\tfrom".toList).trans (List.suffix_append _ _)),
    Option.map_some',
    scanToken_intercalate (hok.token_ne _ (List.mem_cons_self _ _))
      (hok.token_space _ (List.mem_cons_self _ _))]
  rfl

theorem RuleLine.find?_to (h : r.ipproto.isSome → r.dst.isSome) :
    (r.clauses.find? fun c => decide ("to".toList <:+ c.1)).map Prod.snd = r.dst := by
  simp (disch := decide) only [RuleLine.clauses, List.find?_append, find?_clause, if_pos, if_neg,
    Option.or_none]
  cases hd : r.dst <;> cases hx : r.ipproto <;> simp_all

theorem RuleLine.find?_lookup :
    (r.clauses.find? fun c => decide ("lookup".toList <:+ c.1)).map Prod.snd = some r.table := by
  simp (disch := decide) only [RuleLine.clauses, List.find?_append, find?_clause, if_pos, if_neg,
    Option.none_or, Option.map_some']

theorem RuleLine.find?_iif :
    (r.clauses.find? fun c => decide ("iif".toList <:+ c.1)).map Prod.snd = r.iif := by
  simp (disch := decide) only [RuleLine.clauses, List.find?_append, find?_clause, if_pos, if_neg,
    Option.none_or, Option.or_none]
  cases r.iif <;> rfl

theorem RuleLine.find?_oif :
    (r.clauses.find? fun c => decide ("oif".toList <:+ c.1)).map Prod.snd = r.oif := by
  simp (disch := decide) only [RuleLine.clauses, List.find?_append, find?_clause, if_pos, if_neg,
    Option.none_or, Option.or_none]
  cases r.oif <;> rfl

theorem RuleLine.find?_fwmark :
    (r.clauses.find? fun c => decide ("fwmark".toList <:+ c.1)).map Prod.snd =
      r.fwmark.map fun m => "0x".toList ++ hexadecimal m := by
  simp (disch := decide) only [RuleLine.clauses, List.find?_append, find?_clause, if_pos, if_neg,
    Option.none_or, Option.or_none]
  cases r.fwmark <;> rfl

/-- **`fwmark 0xM` reads back `M`.** -/
theorem RuleLine.fwmark_text (hok : r.Ok) :
    ((strstr r.text "fwmark ".toList).bind fun i => scanHexLiteral (r.text.drop (i + 7))) =
      r.fwmark := by
  have hread : ∀ m ∈ r.fwmark, ∀ rest : List Char, (∀ c ∈ rest.head?, c = ' ') →
      scanHexLiteral ("0x".toList ++ hexadecimal m ++ rest) = some m := fun m hm rest hr =>
    scanHex_hexadecimal_append (hok.fwmark_ok m hm).1 (hok.fwmark_ok m hm).2
      fun c hc => by rw [hr c hc]; rfl
  have hf : ∀ c ∈ r.clauses, "fwmark".toList <:+ c.1 → ∀ ws,
      scanHexLiteral (List.intercalate [' '] (c.2 :: ws)) = scanHexLiteral c.2 := by
    intro c hc hk ws
    have hkw : c.1 = "fwmark".toList := by
      have := (r.mem_clauses hc).1
      revert hk this; generalize c.1 = w
      simp only [clauseKeywords, List.mem_cons, List.mem_singleton, List.not_mem_nil, or_false]
      rintro hk (rfl | rfl | rfl | rfl | rfl | rfl | rfl | rfl | rfl) <;> first | rfl | exact absurd hk (by decide)
    obtain ⟨m, hm, hv⟩ := (r.mem_clauses hc).2.2 hkw
    obtain ⟨rest, hrest, hr⟩ := intercalate_cons_eq c.2 ws
    rw [hrest, hv, hread m hm rest hr, ← List.append_nil ("0x".toList ++ hexadecimal m),
      hread m hm [] (by simp)]
  have hkey := strstr_keyword (k := "fwmark".toList) (by decide) (r.words_space hok)
  rw [r.textAfter_clause hok (by decide) (by decide) (by decide)] at hkey
  have hmap := textAfter_clauseWords (f := scanHexLiteral)
    (fun c hc => hok.token_keyword _ (r.mem_clauses hc).2.1 _ (by decide)) hf
  rw [← Option.map_map, RuleLine.find?_fwmark, Option.map_map] at hmap
  have hbind : ((strstr r.text "fwmark ".toList).bind fun i => scanHexLiteral (r.text.drop (i + 7))) =
      ((textAfter "fwmark".toList (clauseWords r.clauses)).map scanHexLiteral).join := by
    rw [← hkey, RuleLine.text, show "fwmark ".toList = "fwmark".toList ++ [' '] from rfl]
    cases strstr (List.intercalate [' '] (r.head :: r.src :: clauseWords r.clauses))
      ("fwmark".toList ++ [' ']) <;> rfl
  rw [hbind, hmap]
  cases h : r.fwmark with
  | none => rfl
  | some m =>
    simp only [Option.map_some', Function.comp_apply, Option.join]
    rw [← List.append_nil ("0x".toList ++ hexadecimal m), hread m h [] (by simp)]
    rfl

theorem RuleLine.scanInt_text (hok : r.Ok) : scanInt r.text = some (r.priority : Int) := by
  obtain ⟨rest, hrest, -⟩ := intercalate_cons_eq r.head (r.src :: clauseWords r.clauses)
  have hsyn : numberSyntax (decimal r.priority ++ (":\tfrom".toList ++ rest)) =
      (false, decimal r.priority, ":\tfrom".toList ++ rest) :=
    numberSyntax_digits_append (decimal_isDigit r.priority) (decimal_ne_nil _) (by simp)
  rw [RuleLine.text, hrest, RuleLine.head, List.append_assoc, scanInt, hsyn,
    atoi_digits_append (decimal_isDigit r.priority) (decimal_ne_nil _) (by simp)
      (by rw [digitsValue_decimal]; exact hok.priority_lt), digitsValue_decimal]
  simp [decimal_ne_nil]

/-- **A line of `ip rule show` is read back field by field.** -/
theorem parseRuleLine_text (hok : r.Ok) (hexit : strstr r.text "EXIT_CODE:".toList = none) :
    parseRuleLine r.text = some r.rule := by
  have hne : r.text ≠ [] := by
    obtain ⟨rest, hrest, -⟩ := intercalate_cons_eq r.head (r.src :: clauseWords r.clauses)
    rw [RuleLine.text, hrest, RuleLine.head]; simp
  rw [parseRuleLine, if_neg (by
      rintro (h | h)
      · exact hne h
      · rw [hexit] at h; exact absurd h (by decide)), r.scanInt_text hok, Option.map_some',
    r.fieldToken_from hok, r.fwmark_text hok,
    show "to ".toList = "to".toList ++ [' '] from rfl,
    r.fieldToken_clause hok (by decide) (by decide) (by decide) (by decide),
    r.find?_to hok.ipproto_dst,
    show "lookup ".toList = "lookup".toList ++ [' '] from rfl,
    r.fieldToken_clause hok (by decide) (by decide) (by decide) (by decide), r.find?_lookup,
    show "iif ".toList = "iif".toList ++ [' '] from rfl,
    r.fieldToken_clause hok (by decide) (by decide) (by decide) (by decide), r.find?_iif,
    show "oif ".toList = "oif".toList ++ [' '] from rfl,
    r.fieldToken_clause hok (by decide) (by decide) (by decide) (by decide), r.find?_oif]
  rfl

/-- **The table is the last word of a rule line.** -/
theorem RuleLine.text_eq_append_table (r : RuleLine) : ∃ a, r.text = a ++ ' ' :: r.table := by
  obtain ⟨pre, hpre⟩ : ∃ pre, r.clauses = pre ++ [("lookup".toList, r.table)] := ⟨_, rfl⟩
  refine ⟨List.intercalate [' '] (r.head :: r.src :: clauseWords pre ++ ["lookup".toList]), ?_⟩
  rw [RuleLine.text, hpre, ← intercalate_concat (by simp)]
  simp [clauseWords]

theorem RuleLine.table_mem_tokens (r : RuleLine) : r.table ∈ r.tokens :=
  List.mem_cons_of_mem _ (List.mem_map_of_mem Prod.snd
    (show ("lookup".toList, r.table) ∈ r.clauses by simp [RuleLine.clauses, clause]))

theorem RuleLine.trimTrailing_text (hok : r.Ok) : trimTrailing r.text = r.text := by
  obtain ⟨a, ha⟩ := r.text_eq_append_table
  have hT : r.table.rdropWhile isTrailingSpace = r.table :=
    List.rdropWhile_eq_self_iff.mpr fun hl h => by
      simpa [hok.token_space _ r.table_mem_tokens _ (List.getLast_mem hl)] using
        isspace_of_isTrailingSpace h
  rw [trimTrailing, ha, show a ++ ' ' :: r.table = (a ++ [' ']) ++ r.table by simp,
    rdropWhile_append_of_ne_nil _ (by rw [hT]; exact hok.token_ne _ r.table_mem_tokens), hT]

end

/-! ## (5) The `policy_rules` section -/

theorem parseRuleLine_of_blank {l : List Char} (h : ∀ c ∈ l, isTrailingSpace c) :
    parseRuleLine l = none := by
  rw [parseRuleLine]
  split <;> simp [scanInt_of_blank h]

/-- **A `policy_rules` section of rule lines reads back as their rules, in order.** -/
theorem parseRulesSection_factsContent {secs : List Section} (hwf : WellFormed secs) {s : Section}
    (hs : s ∈ secs) (hname : s.name = "policy_rules".toList) {rs : List RuleLine}
    (hlines : s.lines = rs.map RuleLine.text) (hok : ∀ r ∈ rs, r.Ok) :
    parseRulesSection (factsContent secs) = rs.map RuleLine.rule := by
  have hmem : ∀ l ∈ s.lines, ∃ r ∈ rs, r.text = l := fun l hl => List.mem_map.mp (hlines ▸ hl)
  have h := filterMap_strtokLines_findSection hwf hs (by rw [hname]; decide)
    (by simp [parseRuleLine]) parseRuleLine_exitLine
    (fun l _ hb => parseRuleLine_of_blank hb) fun l hl => by
      obtain ⟨r, hr, rfl⟩ := hmem l hl
      rw [r.trimTrailing_text (hok r hr)]
  rw [hname] at h
  cases hf : findSection (factsContent secs) "policy_rules".toList with
  | none => rw [hf] at h; cases h
  | some body =>
    rw [hf, Option.map_some', Option.some_inj] at h
    rw [parseRulesSection, hf]
    dsimp only
    rw [h, hlines, List.filterMap_map]
    exact List.filterMap_eq_map_iff_forall_eq_some.mpr fun r hr =>
      parseRuleLine_text (hok r hr) (hwf.lines s hs _ (hlines ▸ List.mem_map_of_mem _ hr)).no_exitCode

end TracerouteSimulator.Facts
