import TracerouteSimulator.CString
import Mathlib.Data.List.DropRight

/-! # Sections of a facts file

The fact collector writes each command's output as a section: a start marker line, a `---` line,
the output lines, an `EXIT_CODE:` line and an end marker line. `find_section` cuts a section's
body out of the raw text with `strstr`, and every parser of `router_facts_loader.c` starts there.

* **`findSection`** — `find_section`, pointer by pointer: the start marker, the `---` after it,
  then the body up to the `\nEXIT_CODE:` sentinel or the end marker, whichever comes first.
* **`factsContent`** — the text of a list of `Section`s, one `\n`-terminated line each; `WellFormed`
  says what the collector guarantees about names and lines.
* **`findSection_fileLines`** — reading a section back gives its lines joined by newlines and
  trimmed. For an empty body the sentinel's newline is the one the `---` skip passed over, so the
  search runs on to the end marker and the `EXIT_CODE:` line itself is returned.
* **`findSection_factsContent_eq_none`** — a name with no whitespace that is not a section's is
  not found.
* **`findSectionBlock`** — `find_section` on the block the text is read into: it reads past the
  terminator exactly when the first `---` after the start marker ends the text, and a body comes
  from after that `---` wherever the section's end marker lies (`findSectionBlock_spec`). -/

namespace TracerouteSimulator.Facts

/-! ## (1) `find_section` -/

/-- The start marker `find_section` prints for a section, before the buffer cuts it. -/
def startMarker (name : List Char) : List Char :=
  "=== TSIM_SECTION_START:".toList ++ (name ++ " ===".toList)

/-- The end marker `find_section` prints for a section, before the buffer cuts it. -/
def endMarker (name : List Char) : List Char :=
  "=== TSIM_SECTION_END:".toList ++ (name ++ " ===".toList)

/-- The characters the trailing-whitespace loop of `find_section` steps back over. -/
def isTrailingSpace (c : Char) : Bool :=
  c == '\n' || c == '\r' || c == ' ' || c == '\t'

/-- `while (end > start && ...) end--`: the text without its trailing whitespace. -/
def trimTrailing (s : List Char) : List Char := s.rdropWhile isTrailingSpace

/-- **Where the body stops**: the `\nEXIT_CODE:` sentinel if it comes before the end marker,
else the end marker; `none` is the `return NULL` when neither is found. -/
def sectionStop : Option Nat → Option Nat → Option Nat
  | some e, some f => if e < f then some e else some f
  | some e, none => some e
  | none, f => f

/-- **`find_section(content, section_name)`**. The markers are printed into 256-byte buffers, so
they keep 255 characters. The search for `---` starts at the start marker itself, and `start += 4`
skips `---\n`; past the end of the text the model reads an empty text. -/
def findSection (content sectionName : List Char) : Option (List Char) :=
  match strstr content ((startMarker sectionName).take 255) with
  | none => none
  | some i =>
    match strstr (content.drop i) "---".toList with
    | none => none
    | some j =>
      let start := (content.drop i).drop (j + 4)
      (sectionStop (strstr start "\nEXIT_CODE:".toList)
          (strstr start ((endMarker sectionName).take 255))).map
        fun e => trimTrailing (start.take e)

theorem sectionStop_of_le {e : Option Nat} {f : Nat} (h : ∀ x ∈ e, f ≤ x) :
    sectionStop e (some f) = some f := by
  cases e with
  | none => rfl
  | some x => simp [sectionStop, Nat.not_lt.mpr (h x rfl)]

/-! ## (2) Well-formed facts files -/

/-- One section as the collector writes it: the command's name, its output lines and its exit
status. -/
structure Section where
  /-- The section name in both markers. -/
  name : List Char
  /-- The output lines, without their newlines. -/
  lines : List (List Char)
  /-- The exit status printed after `EXIT_CODE:`. -/
  exitCode : Nat
  deriving DecidableEq, Repr

/-- The `EXIT_CODE:<n>` line. -/
def exitLine (n : Nat) : List Char := "EXIT_CODE:".toList ++ decimal n

/-- The lines of one section in the file. -/
def Section.fileLines (s : Section) : List (List Char) :=
  startMarker s.name :: "---".toList :: (s.lines ++ [exitLine s.exitCode, endMarker s.name])

/-- Lines written one after another, each ended by `\n`. -/
def joinLines (ls : List (List Char)) : List Char := ls.flatMap (· ++ ['\n'])

/-- The text of a facts file made of `secs`, in order. -/
def factsContent (secs : List Section) : List Char := joinLines (secs.flatMap Section.fileLines)

/-- The body a reader expects back: the lines joined by newlines, trailing whitespace trimmed. -/
def Section.body (s : Section) : List Char := trimTrailing (List.intercalate ['\n'] s.lines)

/-- A section name as the collector writes it: no whitespace, no `=`, and short enough for both
256-byte marker buffers. -/
structure NameOk (name : List Char) : Prop where
  no_space : ∀ c ∈ name, isspace c = false
  no_eq : '=' ∉ name
  length_le : name.length ≤ 228

/-- An output line: no newline, and neither a sentinel nor a marker inside. -/
structure LineOk (l : List Char) : Prop where
  no_newline : '\n' ∉ l
  no_exitCode : strstr l "EXIT_CODE:".toList = none
  no_marker : strstr l "=== TSIM_SECTION_".toList = none

/-- **A well-formed facts file**: distinct, well-formed names and well-formed lines. -/
structure WellFormed (secs : List Section) : Prop where
  nodup : (secs.map Section.name).Nodup
  names : ∀ s ∈ secs, NameOk s.name
  lines : ∀ s ∈ secs, ∀ l ∈ s.lines, LineOk l

instance (name : List Char) : Decidable (NameOk name) :=
  decidable_of_iff ((∀ c ∈ name, isspace c = false) ∧ '=' ∉ name ∧ name.length ≤ 228)
    ⟨fun ⟨a, b, c⟩ => ⟨a, b, c⟩, fun ⟨a, b, c⟩ => ⟨a, b, c⟩⟩

instance (l : List Char) : Decidable (LineOk l) :=
  decidable_of_iff ('\n' ∉ l ∧ strstr l "EXIT_CODE:".toList = none ∧
      strstr l "=== TSIM_SECTION_".toList = none)
    ⟨fun ⟨a, b, c⟩ => ⟨a, b, c⟩, fun ⟨a, b, c⟩ => ⟨a, b, c⟩⟩

instance (secs : List Section) : Decidable (WellFormed secs) :=
  decidable_of_iff ((secs.map Section.name).Nodup ∧ (∀ s ∈ secs, NameOk s.name) ∧
      ∀ s ∈ secs, ∀ l ∈ s.lines, LineOk l)
    ⟨fun ⟨a, b, c⟩ => ⟨a, b, c⟩, fun ⟨a, b, c⟩ => ⟨a, b, c⟩⟩

theorem NameOk.not_mem {name : List Char} (h : NameOk name) {c : Char} (hc : isspace c = true) :
    c ∉ name :=
  fun hm => by simp [h.no_space c hm] at hc

@[simp] theorem joinLines_nil : joinLines [] = [] := rfl

@[simp] theorem joinLines_cons (l : List Char) (ls : List (List Char)) :
    joinLines (l :: ls) = l ++ '\n' :: joinLines ls := by
  simp [joinLines]

@[simp] theorem joinLines_append (ls ls' : List (List Char)) :
    joinLines (ls ++ ls') = joinLines ls ++ joinLines ls' := by
  simp [joinLines]

theorem joinLines_eq_intercalate {ls : List (List Char)} (h : ls ≠ []) :
    joinLines ls = List.intercalate ['\n'] ls ++ ['\n'] := by
  induction ls with
  | nil => exact absurd rfl h
  | cons l ls ih =>
    cases ls with
    | nil => simp [List.intercalate]
    | cons l' ls => simp [ih (List.cons_ne_nil l' ls), List.intercalate]

theorem factsContent_append (secs secs' : List Section) :
    factsContent (secs ++ secs') = factsContent secs ++ factsContent secs' := by
  simp [factsContent]

/-! ## (3) Where each needle is found

The markers and `---` contain no newline, so a search over a text of lines moves line by line;
each kind of line is shown free of each needle once. -/

/-- **Line by line.** A needle without a newline that no line of `ls` contains is searched for
past them. -/
theorem strstr_joinLines_append {ls : List (List Char)} {rest needle : List Char}
    (hw : '\n' ∉ needle) (h : ∀ l ∈ ls, strstr l needle = none) :
    strstr (joinLines ls ++ rest) needle = (strstr rest needle).map (· + (joinLines ls).length) := by
  induction ls with
  | nil => simp
  | cons l ls ih =>
    rw [joinLines_cons, List.append_assoc, List.cons_append,
      strstr_append_newline hw (strstr_eq_none_iff.mp (h l (List.mem_cons_self l ls))),
      ih fun l' hl' => h l' (List.mem_cons_of_mem l hl'), Option.map_map]
    congr 1
    funext x
    simp only [Function.comp_apply, joinLines_cons, List.length_append, List.length_cons]
    omega

/-- **The sentinel after a body.** In a non-empty body followed by the `EXIT_CODE:` line, the first
`\nEXIT_CODE:` is the newline of the last body line. -/
theorem strstr_joinLines_exitCode {ls : List (List Char)} {rest : List Char} (hne : ls ≠ [])
    (h : ∀ l ∈ ls, LineOk l) (hr : "EXIT_CODE:".toList <+: rest) :
    strstr (joinLines ls ++ rest) "\nEXIT_CODE:".toList = some ((joinLines ls).length - 1) := by
  induction ls with
  | nil => exact absurd rfl hne
  | cons l ls ih =>
    have hl := h l (List.mem_cons_self l ls)
    rw [joinLines_cons, List.append_assoc, List.cons_append,
      show "\nEXIT_CODE:".toList = '\n' :: "EXIT_CODE:".toList from rfl,
      strstr_append_newline_cons hl.no_newline]
    cases ls with
    | nil => rw [joinLines_nil, List.nil_append, if_pos hr]; simp
    | cons l' ls =>
      have hl' := h l' (List.mem_cons_of_mem l (List.mem_cons_self l' ls))
      have hk : ¬ "EXIT_CODE:".toList <+: joinLines (l' :: ls) ++ rest := by
        rw [joinLines_cons, List.append_assoc, List.cons_append]
        intro hp
        obtain ⟨c, hc, hcm⟩ := exists_head_mem_of_prefix_append hp
          (strstr_eq_none_iff.mp hl'.no_exitCode 0)
        cases hc
        exact absurd hcm (by decide)
      rw [if_neg hk, show '\n' :: "EXIT_CODE:".toList = "\nEXIT_CODE:".toList from rfl,
        ih (List.cons_ne_nil l' ls) fun x hx => h x (List.mem_cons_of_mem l hx)]
      simp only [Option.map_some', Option.some.injEq, joinLines_cons, List.length_append,
        List.length_cons]
      omega

theorem startMarker_take {name : List Char} (h : name.length ≤ 228) :
    (startMarker name).take 255 = startMarker name :=
  List.take_of_length_le (by simp [startMarker]; omega)

theorem endMarker_take {name : List Char} (h : name.length ≤ 228) :
    (endMarker name).take 255 = endMarker name :=
  List.take_of_length_le (by simp [endMarker]; omega)

/-- The start marker a name gives, as printed into the buffer, begins with the fixed text. -/
theorem startMarker_take_eq (m : List Char) :
    (startMarker m).take 255 =
      "=== TSIM_SECTION_START:".toList ++ (m ++ " ===".toList).take 232 := by
  rw [startMarker, List.take_append_eq_append_take,
    List.take_of_length_le (by decide : "=== TSIM_SECTION_START:".toList.length ≤ 255)]
  rfl

theorem newline_not_mem_startMarker_take {m : List Char} (hm : ∀ c ∈ m, isspace c = false) :
    '\n' ∉ (startMarker m).take 255 := by
  intro h
  have h' := List.mem_of_mem_take h
  simp only [startMarker, List.mem_append] at h'
  rcases h' with h' | h' | h'
  · exact absurd h' (by decide)
  · exact absurd (hm '\n' h') (by decide)
  · exact absurd h' (by decide)

/-- Two space-free names agree once the text after each, which starts with a space, is matched
past the shorter name. -/
theorem eq_of_take_prefix_space {m name x y : List Char} {k : Nat} (hm : ' ' ∉ m) (hn : ' ' ∉ name)
    (hk : name.length < k) (h : (m ++ ' ' :: x).take k <+: name ++ ' ' :: y) : m = name := by
  induction m generalizing name k with
  | nil =>
    cases name with
    | nil => rfl
    | cons d name =>
      obtain ⟨k, rfl⟩ : ∃ k', k = k' + 1 := ⟨k - 1, by simp at hk; omega⟩
      simp only [List.nil_append, List.take_succ_cons, List.cons_append, List.cons_prefix_cons] at h
      exact absurd (h.1 ▸ List.mem_cons_self d name) hn
  | cons c m ih =>
    obtain ⟨k, rfl⟩ : ∃ k', k = k' + 1 := ⟨k - 1, by omega⟩
    cases name with
    | nil =>
      simp only [List.cons_append, List.take_succ_cons, List.nil_append, List.cons_prefix_cons] at h
      exact absurd (h.1 ▸ List.mem_cons_self c m) hm
    | cons d name =>
      simp only [List.cons_append, List.take_succ_cons, List.cons_prefix_cons] at h
      rw [h.1, ih (fun h' => hm (List.mem_cons_of_mem c h')) (fun h' => hn (List.mem_cons_of_mem d h'))
        (by simpa using hk) h.2]

/-- **Inside a marker line.** Past its first character, a marker line `g ++ name ++ " ==="` holds
no `=== T` when the fixed text `g` holds none past its own first character and `name` has no `=`. -/
theorem not_prefix_drop_marker {g name : List Char}
    (hg : ∀ k < g.length, 0 < k → ¬ "=== T".toList <+: g.drop k ∧ ¬ g.drop k <+: "=== T".toList)
    (hname : '=' ∉ name) {j : Nat} (hj : 0 < j) :
    ¬ "=== T".toList <+: (g ++ (name ++ " ===".toList)).drop j := by
  intro hp
  rw [List.drop_append_eq_append_drop] at hp
  by_cases hjg : j < g.length
  · rcases List.prefix_or_prefix_of_prefix hp (List.prefix_append _ _) with h | h
    · exact (hg j hjg hj).1 h
    · exact (hg j hjg hj).2 h
  · rw [List.drop_eq_nil_of_le (by omega), List.nil_append, List.drop_append_eq_append_drop] at hp
    by_cases hjn : j - g.length < name.length
    · obtain ⟨y, t, hy⟩ := List.exists_cons_of_ne_nil (by simpa using hjn :
        name.drop (j - g.length) ≠ [])
      rw [hy, List.cons_append] at hp
      have hye : y = '=' := (List.cons_prefix_cons.mp hp).1.symm
      exact hname (hye ▸ List.mem_of_mem_drop (hy ▸ List.mem_cons_self y t))
    · rw [List.drop_eq_nil_of_le (by omega), List.nil_append] at hp
      have := hp.length_le
      simp at this
      omega

/-- The fixed text that begins every start marker, and the search text of the routing-table
scan. -/
def startFixed : List Char := "=== TSIM_SECTION_START:".toList

/-- **Past its first character, a start marker line holds no start-marker needle.** -/
theorem not_prefix_drop_startMarker {needle name : List Char} (hN : startFixed <+: needle)
    (hname : '=' ∉ name) {j : Nat} (hj : 0 < j) : ¬ needle <+: (startMarker name).drop j :=
  fun hp => not_prefix_drop_marker (g := startFixed) (by decide) hname hj
    (((by decide : "=== T".toList <+: startFixed).trans hN).trans hp)

theorem strstr_startMarker_of_not_prefix {needle name : List Char} (hN : startFixed <+: needle)
    (hname : '=' ∉ name) (h0 : ¬ needle <+: startMarker name) :
    strstr (startMarker name) needle = none := by
  refine strstr_eq_none_iff.mpr fun j hp => ?_
  cases j with
  | zero => exact h0 hp
  | succ j => exact not_prefix_drop_startMarker hN hname (Nat.succ_pos j) hp

/-- A start-marker needle is not in an end marker line. -/
theorem strstr_endMarker_of_startFixed {needle name : List Char} (hN : startFixed <+: needle)
    (hname : '=' ∉ name) : strstr (endMarker name) needle = none := by
  refine strstr_eq_none_iff.mpr fun j hp => ?_
  cases j with
  | zero =>
    have h₁ := (List.prefix_append "=== TSIM_SECTION_S".toList "TART:".toList).trans (hN.trans hp)
    rcases List.prefix_or_prefix_of_prefix h₁ (List.prefix_append _ _) with h | h
    · exact absurd h (by decide)
    · exact absurd h (by decide)
  | succ j =>
    exact not_prefix_drop_marker (g := "=== TSIM_SECTION_END:".toList) (by decide) hname
      (Nat.succ_pos j) (((by decide : "=== T".toList <+: startFixed).trans hN).trans hp)

theorem equals_not_mem_exitLine (n : Nat) : '=' ∉ exitLine n := by
  intro h
  simp only [exitLine, List.mem_append] at h
  rcases h with h | h
  · exact absurd h (by decide)
  · exact absurd (decimal_isDigit n '=' h) (by decide)

theorem newline_not_mem_exitLine (n : Nat) : '\n' ∉ exitLine n := by
  intro h
  simp only [exitLine, List.mem_append] at h
  rcases h with h | h
  · exact absurd h (by decide)
  · exact absurd (decimal_isDigit n '\n' h) (by decide)

/-- **Below its start marker**, no line of a well-formed section holds a needle that begins like
every start marker. -/
theorem strstr_tailLines_of_startFixed {s : Section} {needle : List Char}
    (hN : startFixed <+: needle) (hname : NameOk s.name) (hlines : ∀ l ∈ s.lines, LineOk l) :
    ∀ l ∈ s.fileLines.tail, strstr l needle = none := by
  have heq : '=' ∈ needle := hN.subset (by decide)
  intro l hl
  simp only [Section.fileLines, List.tail_cons, List.mem_cons, List.mem_append,
    List.mem_singleton, List.not_mem_nil, or_false] at hl
  rcases hl with rfl | hl | rfl | rfl
  · exact strstr_eq_none_of_not_mem heq (by decide)
  · exact strstr_eq_none_of_prefix ((by decide : "=== TSIM_SECTION_".toList <+: startFixed).trans hN)
      (hlines l hl).no_marker
  · exact strstr_eq_none_of_not_mem heq (equals_not_mem_exitLine _)
  · exact strstr_endMarker_of_startFixed hN hname.no_eq

/-- **A start-marker needle in a section.** A needle that begins like every start marker is in no
line of a well-formed section, unless it starts that section's start marker line. -/
theorem strstr_fileLines_of_startFixed {s : Section} {needle : List Char}
    (hN : startFixed <+: needle) (hname : NameOk s.name) (hlines : ∀ l ∈ s.lines, LineOk l)
    (h0 : ¬ needle <+: startMarker s.name) : ∀ l ∈ s.fileLines, strstr l needle = none := by
  intro l hl
  rcases List.mem_cons.mp hl with rfl | hl
  · exact strstr_startMarker_of_not_prefix hN hname.no_eq h0
  · exact strstr_tailLines_of_startFixed hN hname hlines l hl

theorem startFixed_prefix_startMarker_take (m : List Char) :
    startFixed <+: (startMarker m).take 255 := by
  rw [startMarker_take_eq]; exact List.prefix_append _ _

/-- **No other section's start marker.** Every line of a section whose name is not `m` is free of
`m`'s start marker. -/
theorem strstr_fileLines_startMarker {s : Section} {m : List Char} (hm : ' ' ∉ m)
    (hname : NameOk s.name) (hlines : ∀ l ∈ s.lines, LineOk l) (hne : s.name ≠ m) :
    ∀ l ∈ s.fileLines, strstr l ((startMarker m).take 255) = none := by
  refine strstr_fileLines_of_startFixed (startFixed_prefix_startMarker_take m) hname hlines
    fun hp => hne ?_
  rw [startMarker_take_eq, startMarker, List.prefix_append_right_inj] at hp
  exact (eq_of_take_prefix_space hm (hname.not_mem (by decide)) (by have := hname.length_le; omega)
    hp).symm

/-! ## (4) Reading a section back -/

/-- **Sections before the one sought are passed over.** -/
theorem findSection_joinLines_append {ls : List (List Char)} (rest : List Char) {m : List Char}
    (hm : ∀ c ∈ m, isspace c = false) (h : ∀ l ∈ ls, strstr l ((startMarker m).take 255) = none) :
    findSection (joinLines ls ++ rest) m = findSection rest m := by
  unfold findSection
  rw [strstr_joinLines_append (newline_not_mem_startMarker_take hm) h]
  cases strstr rest ((startMarker m).take 255) with
  | none => rfl
  | some i => simp only [Option.map_some', Nat.add_comm i, List.drop_append]

theorem trimTrailing_exitLine (n : Nat) : trimTrailing (exitLine n ++ ['\n']) = exitLine n := by
  rw [trimTrailing, List.rdropWhile_concat_pos _ _ _ rfl, List.rdropWhile_eq_self_iff]
  intro hne
  have hlast : (exitLine n).getLast hne ∈ decimal n := by
    simp only [exitLine, List.getLast_append_of_ne_nil (decimal_ne_nil n)]
    exact List.getLast_mem _
  have hdig := decimal_isDigit n _ hlast
  generalize (exitLine n).getLast hne = d at hdig ⊢
  cases h : isTrailingSpace d
  · exact Bool.false_ne_true
  · simp only [isTrailingSpace, Bool.or_eq_true, beq_iff_eq] at h
    rcases h with ((rfl | rfl) | rfl) | rfl <;> exact absurd hdig (by decide)

/-- **One section.** `find_section` on a text that starts with a well-formed section returns its
lines joined and trimmed, or its `EXIT_CODE:` line when it has no lines. -/
theorem findSection_fileLines {s : Section} (rest : List Char) (hname : NameOk s.name)
    (hlines : ∀ l ∈ s.lines, LineOk l) (hdash : strstr s.name "---".toList = none) :
    findSection (joinLines s.fileLines ++ rest) s.name =
      some (if s.lines = [] then exitLine s.exitCode else s.body) := by
  set tail := exitLine s.exitCode ++ '\n' :: (endMarker s.name ++ '\n' :: rest) with htail
  have hJ : joinLines s.fileLines ++ rest =
      startMarker s.name ++ '\n' :: ("---".toList ++ '\n' :: (joinLines s.lines ++ tail)) := by
    simp [Section.fileLines, htail]
  have h₁ : strstr (joinLines s.fileLines ++ rest) ((startMarker s.name).take 255) = some 0 := by
    rw [startMarker_take hname.length_le, hJ]
    exact strstr_eq_zero_of_isPrefixOf (List.prefix_append _ _)
  have hsm : strstr (startMarker s.name) "---".toList = none := by
    rw [startMarker, ← List.append_assoc]
    exact strstr_append_append_eq_none (by decide) (by decide) (by decide) hdash
  have h₂ : strstr (joinLines s.fileLines ++ rest) "---".toList =
      some ((startMarker s.name).length + 1) := by
    rw [hJ, strstr_append_newline (by decide) (strstr_eq_none_iff.mp hsm),
      strstr_eq_zero_of_isPrefixOf (List.prefix_append _ _)]
    simp
  have h₃ : (joinLines s.fileLines ++ rest).drop ((startMarker s.name).length + 1 + 4) =
      joinLines s.lines ++ tail := by
    rw [hJ, show startMarker s.name ++ '\n' :: ("---".toList ++ '\n' :: (joinLines s.lines ++ tail))
      = (startMarker s.name ++ "\n---\n".toList) ++ (joinLines s.lines ++ tail) by simp]
    exact List.drop_left' (by simp)
  have h₄ : strstr (joinLines s.lines ++ tail) ((endMarker s.name).take 255) =
      some ((joinLines s.lines).length + (exitLine s.exitCode).length + 1) := by
    have hw : '\n' ∉ endMarker s.name := by
      simp only [endMarker, List.mem_append, not_or]
      exact ⟨by decide, hname.not_mem (by decide), by decide⟩
    rw [endMarker_take hname.length_le, htail, ← List.append_assoc,
      strstr_append_newline hw (strstr_eq_none_iff.mp ?_),
      strstr_eq_zero_of_isPrefixOf (List.prefix_append _ _)]
    · simp
    · rw [strstr_joinLines_append hw fun l hl => strstr_eq_none_of_prefix
        ((by decide : "=== TSIM_SECTION_".toList <+: _).trans (List.prefix_append _ _))
        (hlines l hl).no_marker,
        strstr_eq_none_of_not_mem (c := '=') (by simp [endMarker]) (equals_not_mem_exitLine _)]
      rfl
  simp only [findSection, h₁, List.drop_zero, h₂, h₃, h₄]
  by_cases hnil : s.lines = []
  · rw [hnil, joinLines_nil, List.nil_append, htail,
      show "\nEXIT_CODE:".toList = '\n' :: "EXIT_CODE:".toList from rfl,
      strstr_append_newline_cons (newline_not_mem_exitLine _),
      if_neg (by simp [endMarker]), sectionStop_of_le (by simp)]
    simp [List.take_append_eq_append_take, List.take_of_length_le (Nat.le_succ _),
      trimTrailing_exitLine]
  · have hex : "EXIT_CODE:".toList <+: tail := by
      rw [htail, exitLine, List.append_assoc]; exact List.prefix_append _ _
    rw [strstr_joinLines_exitCode hnil hlines hex, sectionStop,
      if_pos (by omega), joinLines_eq_intercalate hnil, if_neg hnil]
    simp [Section.body]

/-- **Reading a section of a well-formed file.** Sections before it are passed over, since their
lines hold no start marker of its name; the section itself reads back as in
`findSection_fileLines`. -/
theorem findSection_factsContent {secs : List Section} (hwf : WellFormed secs) {s : Section}
    (hs : s ∈ secs) (hdash : strstr s.name "---".toList = none) :
    findSection (factsContent secs) s.name =
      some (if s.lines = [] then exitLine s.exitCode else s.body) := by
  obtain ⟨pre, post, rfl⟩ := List.append_of_mem hs
  have hname := hwf.names s hs
  have hfresh : ∀ p ∈ pre, p.name ≠ s.name := by
    have h := hwf.nodup
    rw [List.map_append, List.map_cons, List.nodup_append] at h
    exact fun p hp he => h.2.2 (List.mem_map_of_mem _ hp) (he ▸ List.mem_cons_self _ _)
  have hcontent : factsContent (pre ++ s :: post) =
      joinLines (pre.flatMap Section.fileLines) ++ (joinLines s.fileLines ++ factsContent post) := by
    simp [factsContent]
  rw [hcontent, findSection_joinLines_append _ hname.no_space fun l hl => ?_,
    findSection_fileLines _ hname (hwf.lines s hs) hdash]
  obtain ⟨p, hp, hl⟩ := List.mem_flatMap.mp hl
  exact strstr_fileLines_startMarker (hname.not_mem (by decide)) (hwf.names p (by simp [hp]))
    (hwf.lines p (by simp [hp])) (hfresh p hp) l hl

/-- **A name that is not a section's is not found**, provided it has no whitespace: its start
marker then matches no line of the file. -/
theorem findSection_factsContent_eq_none {secs : List Section} (hwf : WellFormed secs)
    {m : List Char} (hm : ∀ c ∈ m, isspace c = false) (hnot : m ∉ secs.map Section.name) :
    findSection (factsContent secs) m = none := by
  rw [factsContent, ← List.append_nil (joinLines _), findSection_joinLines_append [] hm fun l hl => ?_]
  · rfl
  obtain ⟨p, hp, hl⟩ := List.mem_flatMap.mp hl
  exact strstr_fileLines_startMarker (fun h => absurd (hm ' ' h) (by decide)) (hwf.names p hp)
    (hwf.lines p hp) (fun he => hnot (he ▸ List.mem_map_of_mem _ hp)) l hl

/-- **`find_section` reads back what the collector wrote.** In a well-formed file, a section with
lines and with no `---` in its name reads back as its lines joined and trimmed, and a name without
whitespace that is no section's is not found. -/
theorem findSection_factsContent_spec {secs : List Section} (hwf : WellFormed secs) :
    (∀ s ∈ secs, s.lines ≠ [] → strstr s.name "---".toList = none →
      findSection (factsContent secs) s.name = some s.body) ∧
    ∀ m, (∀ c ∈ m, isspace c = false) → m ∉ secs.map Section.name →
      findSection (factsContent secs) m = none :=
  ⟨fun s hs hne hdash => by rw [findSection_factsContent hwf hs hdash, if_neg hne],
    fun _ hm hnot => findSection_factsContent_eq_none hwf hm hnot⟩

theorem findSection_factsContent_spec_interfaces_rules :
    WellFormed [⟨"interfaces".toList, ["1: lo: <LOOPBACK,UP>".toList], 0⟩,
        ⟨"policy_rules".toList, ["0:\tfrom all lookup local".toList], 0⟩] ∧
      ((∀ s ∈ [(⟨"interfaces".toList, ["1: lo: <LOOPBACK,UP>".toList], 0⟩ : Section),
          ⟨"policy_rules".toList, ["0:\tfrom all lookup local".toList], 0⟩],
        s.lines ≠ [] → strstr s.name "---".toList = none →
          findSection (factsContent [⟨"interfaces".toList, ["1: lo: <LOOPBACK,UP>".toList], 0⟩,
            ⟨"policy_rules".toList, ["0:\tfrom all lookup local".toList], 0⟩]) s.name =
            some s.body) ∧
      ∀ m, (∀ c ∈ m, isspace c = false) →
        m ∉ [(⟨"interfaces".toList, ["1: lo: <LOOPBACK,UP>".toList], 0⟩ : Section),
          ⟨"policy_rules".toList, ["0:\tfrom all lookup local".toList], 0⟩].map Section.name →
        findSection (factsContent [⟨"interfaces".toList, ["1: lo: <LOOPBACK,UP>".toList], 0⟩,
          ⟨"policy_rules".toList, ["0:\tfrom all lookup local".toList], 0⟩]) m = none) :=
  ⟨by decide, findSection_factsContent_spec (by decide)⟩

set_option maxRecDepth 4000 in
/-- **Three texts `find_section` misreads.** An empty body comes back as its `EXIT_CODE:` line; a
name holding `---` sends the `---` search into the marker itself; and a name holding the marker
syntax is found although no section has it. -/
theorem findSection_misreads :
    WellFormed [⟨"policy_rules".toList, [], 0⟩] ∧
      findSection (factsContent [⟨"policy_rules".toList, [], 0⟩]) "policy_rules".toList =
        some "EXIT_CODE:0".toList ∧
    WellFormed [⟨"a---b".toList, ["x".toList], 0⟩] ∧
      findSection (factsContent [⟨"a---b".toList, ["x".toList], 0⟩]) "a---b".toList =
        some " ===\n---\nx".toList ∧
    WellFormed [⟨"a".toList, ["x".toList], 0⟩] ∧
      "a ===\n---\nx\nEXIT_CODE:0\n=== TSIM_SECTION_END:a".toList ≠ "a".toList ∧
      findSection (factsContent [⟨"a".toList, ["x".toList], 0⟩])
        "a ===\n---\nx\nEXIT_CODE:0\n=== TSIM_SECTION_END:a".toList = some "x".toList := by
  decide

/-! ## (5) The lines of a body

The parsers split a body with `strtok_r(section, "\n", ...)`, which never returns an empty token,
and read each line on its own. Trimming the body's trailing whitespace in `find_section` changes
nothing for a line handler that ignores trailing whitespace and blank lines
(`filterMap_strtokLines_trimTrailing`). -/

/-- **`strtok_r(section, "\n", ...)`** until it returns `NULL`: the non-empty runs between
newlines. -/
def strtokLines (s : List Char) : List (List Char) := (s.splitOn '\n').filter fun l => !l.isEmpty

/-- **The line trim of the routing-table scan**: `while (*line && isspace(*line)) line++`, then the
backwards loop. Its guard `line_end > line` never stops it early, since the first character left
is not a space. -/
def trimLine (line : List Char) : List Char := (line.dropWhile isspace).rdropWhile isspace

theorem rdropWhile_append_of_forall {p : Char → Bool} (a : List Char) {b : List Char}
    (hb : ∀ c ∈ b, p c) : (a ++ b).rdropWhile p = a.rdropWhile p := by
  induction b using List.reverseRecOn with
  | nil => simp
  | append_singleton b x ih =>
    rw [← List.append_assoc, List.rdropWhile_concat_pos _ _ _ (hb x (by simp)),
      ih fun c hc => hb c (by simp [hc])]

theorem rdropWhile_append_of_ne_nil {p : Char → Bool} (a : List Char) {b : List Char}
    (hb : b.rdropWhile p ≠ []) : (a ++ b).rdropWhile p = a ++ b.rdropWhile p := by
  induction b using List.reverseRecOn with
  | nil => exact absurd (List.rdropWhile_nil p) hb
  | append_singleton b x ih =>
    rw [← List.append_assoc]
    by_cases hx : p x
    · rw [List.rdropWhile_concat_pos _ _ _ hx] at hb
      rw [List.rdropWhile_concat_pos _ _ _ hx, List.rdropWhile_concat_pos _ _ _ hx, ih hb]
    · rw [List.rdropWhile_concat_neg _ _ _ hx, List.rdropWhile_concat_neg _ _ _ hx,
        List.append_assoc]

theorem intercalate_concat {sep : Char} {ls : List (List Char)} (hne : ls ≠ []) (l : List Char) :
    List.intercalate [sep] (ls ++ [l]) = List.intercalate [sep] ls ++ sep :: l := by
  induction ls with
  | nil => exact absurd rfl hne
  | cons l' ls ih =>
    cases ls with
    | nil => simp [List.intercalate]
    | cons l'' ls =>
      simp only [List.cons_append, List.intercalate, List.intersperse_cons₂, List.flatten_cons]
        at ih ⊢
      rw [ih (List.cons_ne_nil _ _)]
      simp

theorem strtokLines_intercalate {ls : List (List Char)} (h : ∀ l ∈ ls, '\n' ∉ l) :
    strtokLines (List.intercalate ['\n'] ls) = ls.filter fun l => !l.isEmpty := by
  by_cases hne : ls = []
  · subst hne; rfl
  · rw [strtokLines, List.splitOn_intercalate _ '\n' h hne]

theorem filterMap_filter_nonempty {α : Type} {g : List Char → Option α} (hnil : g [] = none)
    (ls : List (List Char)) : (ls.filter fun l => !l.isEmpty).filterMap g = ls.filterMap g := by
  induction ls with
  | nil => rfl
  | cons l ls ih =>
    cases l with
    | nil => simp [hnil, ih]
    | cons c l => rw [List.filter_cons_of_pos rfl, List.filterMap_cons, List.filterMap_cons, ih]

/-- **Trailing whitespace is invisible to the line handlers.** A handler that skips empty lines
and lines of trailing whitespace, and reads a line as it reads its trimmed form, sees the same
lines in `find_section`'s trimmed body as in the untrimmed one. -/
theorem filterMap_strtokLines_trimTrailing {α : Type} {g : List Char → Option α}
    (hnil : g [] = none) {ls : List (List Char)} (hnl : ∀ l ∈ ls, '\n' ∉ l)
    (hblank : ∀ l ∈ ls, (∀ c ∈ l, isTrailingSpace c) → g l = none)
    (htrim : ∀ l ∈ ls, g (trimTrailing l) = g l) :
    (strtokLines (trimTrailing (List.intercalate ['\n'] ls))).filterMap g = ls.filterMap g := by
  induction ls using List.reverseRecOn with
  | nil => rfl
  | append_singleton ls l ih =>
    have hl : '\n' ∉ l := hnl l (by simp)
    have hnl' : ∀ x ∈ ls, '\n' ∉ x := fun x hx => hnl x (by simp [hx])
    rw [List.filterMap_append]
    by_cases hb : ∀ c ∈ l, isTrailingSpace c
    · have hcut : trimTrailing (List.intercalate ['\n'] (ls ++ [l])) =
          trimTrailing (List.intercalate ['\n'] ls) := by
        by_cases hne : ls = []
        · subst hne; simpa [trimTrailing, List.intercalate] using hb
        · rw [intercalate_concat hne, trimTrailing, trimTrailing,
            rdropWhile_append_of_forall _ (by simpa [isTrailingSpace] using hb)]
      rw [hcut, ih hnl' (fun x hx => hblank x (by simp [hx])) fun x hx => htrim x (by simp [hx])]
      simp [hblank l (by simp) hb]
    · have hne' : trimTrailing l ≠ [] := by simpa [trimTrailing] using hb
      have hcut : trimTrailing (List.intercalate ['\n'] (ls ++ [l])) =
          List.intercalate ['\n'] (ls ++ [trimTrailing l]) := by
        by_cases hne : ls = []
        · subst hne; simp [List.intercalate]
        · rw [intercalate_concat hne, intercalate_concat hne, trimTrailing,
            show List.intercalate ['\n'] ls ++ '\n' :: l = (List.intercalate ['\n'] ls ++ ['\n']) ++ l
              by simp, rdropWhile_append_of_ne_nil _ hne']
          simp [trimTrailing]
      have hsub : '\n' ∉ trimTrailing l := fun h => hl ((List.rdropWhile_prefix _ _).subset h)
      rw [hcut, strtokLines_intercalate fun x hx => ?_, filterMap_filter_nonempty hnil,
        List.filterMap_append]
      · rw [List.filterMap_cons, List.filterMap_cons, htrim l (by simp)]
      · rcases List.mem_append.mp hx with hx | hx
        exacts [hnl' x hx, (List.mem_singleton.mp hx) ▸ hsub]

theorem strtokLines_of_not_mem {s : List Char} (hs : '\n' ∉ s) (hne : s ≠ []) :
    strtokLines s = [s] := by
  rw [strtokLines, List.splitOn, List.splitOnP_eq_single _ _ fun c hc h => hs (by simpa using
    (beq_iff_eq.mp h) ▸ hc)]
  cases s with
  | nil => exact absurd rfl hne
  | cons c s => rfl

/-- **A line handler over a section of a well-formed file.** A handler that skips blank lines,
`EXIT_CODE:` lines and lines of trailing whitespace, and reads a line as its trimmed form, sees
exactly the section's lines, whether or not the section has any. -/
theorem filterMap_strtokLines_findSection {α : Type} {g : List Char → Option α}
    {secs : List Section} (hwf : WellFormed secs) {s : Section} (hs : s ∈ secs)
    (hdash : strstr s.name "---".toList = none) (hnil : g [] = none)
    (hexit : ∀ n, g (exitLine n) = none)
    (hblank : ∀ l ∈ s.lines, (∀ c ∈ l, isTrailingSpace c) → g l = none)
    (htrim : ∀ l ∈ s.lines, g (trimTrailing l) = g l) :
    (findSection (factsContent secs) s.name).map (fun b => (strtokLines b).filterMap g) =
      some (s.lines.filterMap g) := by
  rw [findSection_factsContent hwf hs hdash]
  by_cases hnil' : s.lines = []
  · rw [if_pos hnil', hnil', Option.map_some', strtokLines_of_not_mem (newline_not_mem_exitLine _)
      (by simp [exitLine])]
    simp [hexit]
  · rw [if_neg hnil', Option.map_some', Section.body, filterMap_strtokLines_trimTrailing hnil
      (fun l hl => (hwf.lines s hs l hl).no_newline) hblank htrim]

/-! ## (6) The block `find_section` reads

`load_router_facts` reads the file into a block of `size + 1` bytes and ends it with `'\0'`. After
the `---` search, `start += 4` assumes a newline follows the dashes; when the dashes end the text,
`start` lands one past the terminator and the next `strstr` reads outside the block. -/

/-- **`find_section` on the block `content` and its terminator**: `none` when `start += 4` leaves
the block's `content.length + 1` bytes, so that the `\nEXIT_CODE:` search reads outside it; else
what `find_section` returns. -/
def findSectionBlock (content sectionName : List Char) : Option (Option (List Char)) :=
  match strstr content ((startMarker sectionName).take 255) with
  | none => some none
  | some i =>
    match strstr (content.drop i) "---".toList with
    | none => some none
    | some j =>
      if content.length + 1 ≤ i + j + 4 then none
      else
        let start := content.drop (i + j + 4)
        some ((sectionStop (strstr start "\nEXIT_CODE:".toList)
            (strstr start ((endMarker sectionName).take 255))).map
          fun e => trimTrailing (start.take e))

/-- The dashes `strstr` finds lie inside the text. -/
theorem add_three_le_of_strstr_dashes {content : List Char} {i j : Nat}
    (h : strstr (content.drop i) "---".toList = some j) : i + j + 3 ≤ content.length := by
  have hlen := (strstr_eq_some_iff.mp h).1.length_le
  simp only [List.drop_drop, List.length_drop] at hlen
  exact (by simpa using hlen : 3 ≤ content.length - (i + j)) |> fun h => by omega

/-- **Where `find_section` reads past the text, and what it returns elsewhere.** For every text and
section name: `find_section` reads outside the block exactly when the first `---` from the first
start marker on ends the text. Otherwise it returns what `findSection` says, and a body it returns
is cut from the text that follows that `---` and one more character, wherever the name's end
marker lies. -/
theorem findSectionBlock_spec (content sectionName : List Char) :
    (findSectionBlock content sectionName = none ↔
      ∃ i j, strstr content ((startMarker sectionName).take 255) = some i ∧
        strstr (content.drop i) "---".toList = some j ∧ content.length = i + j + 3) ∧
    (∀ r, findSectionBlock content sectionName = some r → r = findSection content sectionName) ∧
    ∀ body, findSectionBlock content sectionName = some (some body) →
      ∃ i j, strstr content ((startMarker sectionName).take 255) = some i ∧
        strstr (content.drop i) "---".toList = some j ∧ body <+: content.drop (i + j + 4) := by
  rcases hi : strstr content ((startMarker sectionName).take 255) with _ | i
  · -- no start marker
    simp [findSectionBlock, findSection, hi]
  rcases hj : strstr (content.drop i) "---".toList with _ | j
  · -- no dashes after it
    simp only [findSectionBlock, findSection, hi, hj]
    simp_all
  have h3 := add_three_le_of_strstr_dashes hj
  by_cases hout : content.length + 1 ≤ i + j + 4
  · -- the dashes end the text
    simp only [findSectionBlock, hi, hj, if_pos hout]
    exact ⟨⟨fun _ => ⟨i, j, rfl, hj, by omega⟩, fun _ => trivial⟩, fun _ h => (by cases h),
      fun _ h => by cases h⟩
  · -- the block holds the text after the dashes
    have hd : (content.drop i).drop (j + 4) = content.drop (i + j + 4) := by
      rw [List.drop_drop, Nat.add_assoc]
    have hb : findSectionBlock content sectionName = some (findSection content sectionName) := by
      simp only [findSectionBlock, findSection, hi, hj, if_neg hout, hd]
    rw [hb]
    refine ⟨⟨fun h => (by cases h), fun ⟨_, _, hi', hj', hlen⟩ => ?_⟩,
      fun _ h => (Option.some.inj h).symm, fun body hbody => ⟨i, j, rfl, hj, ?_⟩⟩
    · obtain rfl := Option.some.inj hi'
      obtain rfl := Option.some.inj (hj.symm.trans hj')
      omega
    · simp only [findSection, hi, hj, Option.some.injEq] at hbody
      obtain ⟨e, -, rfl⟩ := Option.map_eq_some'.mp hbody
      rw [← hd]
      exact (List.rdropWhile_prefix _ _).trans (List.take_prefix _ _)

set_option maxRecDepth 4000 in
/-- **Two texts `find_section` misreads.** A file cut off right after the `---` line of
`interfaces` sends the sentinel search past the terminator. A section `a` without its `---` line
gets the body of the next section, `y`, which occurs only after `a`'s end marker. -/
theorem findSectionBlock_cut_and_dashless :
    let cut := startMarker "interfaces".toList ++ "\n---".toList
    let dashless := joinLines [startMarker "a".toList, "x".toList, exitLine 0, endMarker "a".toList] ++
      factsContent [⟨"b".toList, ["y".toList], 0⟩]
    findSectionBlock cut "interfaces".toList = none ∧
      findSectionBlock dashless "a".toList = some (some "y".toList) ∧
      strstr dashless ((endMarker "a".toList).take 255) = some 43 ∧
      strstr (dashless.take 43) "y".toList = none := by
  intro cut dashless
  exact ⟨(findSectionBlock_spec cut "interfaces".toList).1.mpr ⟨0, 38, by decide, by decide, rfl⟩,
    by decide, by decide, by decide⟩

end TracerouteSimulator.Facts
