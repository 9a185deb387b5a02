import TracerouteSimulator.Facts.Rules

/-! # Loading router facts

`load_router_facts` reads one facts file: its interfaces and policy rules, every
`routing_table_<T>` section as raw `ip route add` commands, and the `iptables_save` and
`ipset_save` blocks. `load_facts_from_env_filtered` loads a router for each `*_facts.txt` file of
the facts directory.

* **`scanRoutingTables`** — the loop `while ((pos = strstr(pos, search)) != NULL)`, with fuel;
  any fuel longer than the text gives the same commands (`scanRoutingTables_fuel`).
* **`routeLine`**, **`tableRouteCommands`** — the commands of one `routing_table_<T>` section.
* **`routingTableCommands_factsContent`** — in a well-formed file the scan visits the
  `routing_table_<T>` sections in file order and reads each one back line by line.
* **`loadRouterFacts`**, **`loadFactsFromEnvFiltered`** — one file, and a directory.

`parse_interfaces_section` is the parameter `parseInterfaces` of the loader: the rules and the
route commands of a router do not depend on it. -/

namespace TracerouteSimulator.Facts

/-! ## (1) The routing-table scan -/

/-- `search`: the start marker of every `routing_table_` section, up to the table name. -/
def routingTableSearch : List Char := startFixed ++ "routing_table_".toList

/-- **The table name after the marker**: `table_name[256]` takes the characters up to a space, an
`=` or the end of the text, at most 255 of them. -/
def scanTableName (s : List Char) : List Char :=
  (s.takeWhile fun c => c != ' ' && c != '=').take 255

/-- **One line of a routing-table section**: an empty line or one holding `EXIT_CODE:` is
skipped; the rest is trimmed with `isspace`, skipped if nothing is left, and becomes
`ip route add [table T] line` in `cmd[1024]`. -/
def routeLine (tableName line : List Char) : Option (List Char) :=
  if line = [] ∨ (strstr line "EXIT_CODE:".toList).isSome then none
  else if trimLine line = [] then none
  else some ((if tableName = "main".toList then "ip route add ".toList ++ trimLine line
    else "ip route add table ".toList ++ tableName ++ ' ' :: trimLine line).take 1023)

/-- **The commands of section `routing_table_<T>`**: `section_name[256]` holds its name,
`find_section` its body and `strtok_r` its lines. -/
def tableRouteCommands (content tableName : List Char) : List (List Char) :=
  match findSection content (("routing_table_".toList ++ tableName).take 255) with
  | none => []
  | some body => (strtokLines body).filterMap (routeLine tableName)

/-- **The scan loop from `pos`**, for at most `fuel` matches. After a match `pos` moves past the
search text, the table name is read, and `pos++` moves one character further. -/
def scanRoutingTables (content : List Char) : Nat → List Char → List (List Char)
  | 0, _ => []
  | fuel + 1, pos =>
    match strstr pos routingTableSearch with
    | none => []
    | some i =>
      let after := pos.drop (i + routingTableSearch.length)
      (if scanTableName after = [] then [] else tableRouteCommands content (scanTableName after)) ++
        scanRoutingTables content fuel (after.drop 1)

/-- **The raw route commands of a facts file**: the scan from the start of the text. -/
def routingTableCommands (content : List Char) : List (List Char) :=
  scanRoutingTables content (content.length + 1) content

theorem routingTableSearch_length : routingTableSearch.length = 37 := rfl

theorem startFixed_prefix_routingTableSearch : startFixed <+: routingTableSearch :=
  List.prefix_append _ _

/-- **The fuel never stops the scan**: each match moves `pos` forward, so every fuel longer than
the text gives the same commands. -/
theorem scanRoutingTables_fuel (content : List Char) {f₁ f₂ : Nat} {pos : List Char}
    (h₁ : pos.length < f₁) (h₂ : pos.length < f₂) :
    scanRoutingTables content f₁ pos = scanRoutingTables content f₂ pos := by
  induction f₁ generalizing f₂ pos with
  | zero => omega
  | succ f ih =>
    obtain ⟨g, rfl⟩ : ∃ g, f₂ = g + 1 := ⟨f₂ - 1, by omega⟩
    simp only [scanRoutingTables]
    cases hs : strstr pos routingTableSearch with
    | none => rfl
    | some i =>
      have hle := (strstr_eq_some_iff.mp hs).1.length_le
      rw [List.length_drop, routingTableSearch_length] at hle
      dsimp only
      congr 1
      exact ih (by simp [routingTableSearch_length]; omega) (by simp [routingTableSearch_length]; omega)

/-- **Text with no match of its own is passed over.** -/
theorem scanRoutingTables_append (content : List Char) (fuel : Nat) {a rest : List Char}
    (h : strstr (a ++ rest) routingTableSearch =
      (strstr rest routingTableSearch).map (· + a.length)) :
    scanRoutingTables content fuel (a ++ rest) = scanRoutingTables content fuel rest := by
  cases fuel with
  | zero => rfl
  | succ fuel =>
    simp only [scanRoutingTables, h]
    cases strstr rest routingTableSearch with
    | none => rfl
    | some i =>
      simp only [Option.map_some']
      rw [show i + a.length + routingTableSearch.length =
        a.length + (i + routingTableSearch.length) by omega, List.drop_append]

/-! ## (2) The scan over a well-formed file -/

/-- **The table a section's name gives the scan**: the name after `routing_table_`. -/
def routingTableName (name : List Char) : Option (List Char) :=
  if "routing_table_".toList <+: name then some (name.drop 14) else none

/-- What the scan takes from one section of a well-formed file. -/
def sectionRouteCommands (content : List Char) (s : Section) : List (List Char) :=
  match routingTableName s.name with
  | some T => if T = [] then [] else tableRouteCommands content T
  | none => []

theorem eq_of_routingTableName {name T : List Char} (h : routingTableName name = some T) :
    name = "routing_table_".toList ++ T := by
  unfold routingTableName at h
  split at h
  · rename_i hp
    obtain ⟨t, rfl⟩ := hp
    cases h
    rw [show (14 : Nat) = "routing_table_".toList.length from rfl, List.drop_left]
  · cases h

/-- A prefix without a space of `name ++ " ..."` is a prefix of `name`. -/
theorem prefix_of_prefix_append_space {p name r : List Char} (hp : ' ' ∉ p)
    (h : p <+: name ++ ' ' :: r) : p <+: name := by
  induction p generalizing name with
  | nil => exact List.nil_prefix
  | cons c p ih =>
    cases name with
    | nil => exact absurd ((List.cons_prefix_cons.mp h).1 ▸ List.mem_cons_self c p) hp
    | cons d name =>
      obtain ⟨rfl, h'⟩ := List.cons_prefix_cons.mp h
      exact List.cons_prefix_cons.mpr ⟨rfl, ih (fun h'' => hp (List.mem_cons_of_mem c h'')) h'⟩

theorem scanTableName_append {T r : List Char} (hs : ' ' ∉ T) (he : '=' ∉ T)
    (hlen : T.length ≤ 255) : scanTableName (T ++ ' ' :: r) = T := by
  rw [scanTableName, List.takeWhile_append_of_pos fun c hc => ?_]
  · simpa using List.take_of_length_le hlen
  · simp only [bne_iff_ne, ne_eq, Bool.and_eq_true, decide_eq_true_eq]
    exact ⟨fun h => hs (h ▸ hc), fun h => he (h ▸ hc)⟩

/-- **A section that is not a routing table is passed over**: its start marker does not begin
with the search text, and no other line holds it. -/
theorem scanRoutingTables_otherSection (content : List Char) (fuel : Nat) {s : Section}
    (hname : NameOk s.name) (hlines : ∀ l ∈ s.lines, LineOk l) (hT : routingTableName s.name = none)
    (rest : List Char) :
    scanRoutingTables content fuel (joinLines s.fileLines ++ rest) =
      scanRoutingTables content fuel rest := by
  have h0 : ¬ routingTableSearch <+: startMarker s.name := fun hp => by
    rw [routingTableSearch, startFixed, startMarker, List.prefix_append_right_inj] at hp
    rw [routingTableName, if_pos (prefix_of_prefix_append_space (by decide) hp)] at hT
    cases hT
  exact scanRoutingTables_append content fuel (strstr_joinLines_append (by decide)
    (strstr_fileLines_of_startFixed startFixed_prefix_routingTableSearch hname hlines h0))

/-- **A routing-table section gives its commands**: the match is its start marker, the name read
is `T`, and the scan resumes inside the marker line, where nothing else matches. -/
theorem scanRoutingTables_routingSection (content : List Char) (fuel : Nat) {s : Section}
    (hname : NameOk s.name) (hlines : ∀ l ∈ s.lines, LineOk l) {T : List Char}
    (hT : s.name = "routing_table_".toList ++ T) (rest : List Char) :
    scanRoutingTables content (fuel + 1) (joinLines s.fileLines ++ rest) =
      (if T = [] then [] else tableRouteCommands content T) ++ scanRoutingTables content fuel rest := by
  have hsm : startMarker s.name = routingTableSearch ++ (T ++ " ===".toList) := by
    simp [startMarker, routingTableSearch, startFixed, hT]
  have hJ : joinLines s.fileLines ++ rest = routingTableSearch ++
      (T ++ ' ' :: ("===".toList ++ '\n' :: (joinLines s.fileLines.tail ++ rest))) := by
    simp [Section.fileLines, hsm]
  have hTs : ' ' ∉ T := fun h =>
    hname.not_mem (show isspace ' ' = true by decide) (by rw [hT]; exact List.mem_append_right _ h)
  have hTe : '=' ∉ T := fun h => hname.no_eq (by rw [hT]; exact List.mem_append_right _ h)
  have hTl : T.length ≤ 255 := by have := hname.length_le; rw [hT] at this; simp at this; omega
  -- `pos++` leaves the scan inside the marker line, one character past the match
  have hdrop : (T ++ ' ' :: ("===".toList ++ '\n' :: (joinLines s.fileLines.tail ++ rest))).drop 1 =
      ((startMarker s.name).drop (routingTableSearch.length + 1) ++ '\n' ::
        joinLines s.fileLines.tail) ++ rest := by
    rw [hsm, List.drop_append, show T ++ ' ' :: ("===".toList ++ '\n' ::
        (joinLines s.fileLines.tail ++ rest)) =
        (T ++ " ===".toList) ++ '\n' :: (joinLines s.fileLines.tail ++ rest) by simp,
      List.drop_append_of_le_length (by simp)]
    simp
  have hrest : strstr (((startMarker s.name).drop (routingTableSearch.length + 1) ++ '\n' ::
      joinLines s.fileLines.tail) ++ rest) routingTableSearch =
      (strstr rest routingTableSearch).map (· + ((startMarker s.name).drop
        (routingTableSearch.length + 1) ++ '\n' :: joinLines s.fileLines.tail).length) := by
    rw [List.append_assoc, List.cons_append, strstr_append_newline (by decide) fun j => ?_,
      strstr_joinLines_append (by decide)
        (strstr_tailLines_of_startFixed startFixed_prefix_routingTableSearch hname hlines),
      Option.map_map]
    · congr 1
      funext x
      simp only [Function.comp_apply, List.length_append, List.length_cons]
      omega
    · rw [List.drop_drop]
      exact not_prefix_drop_startMarker startFixed_prefix_routingTableSearch hname.no_eq (by omega)
  simp only [scanRoutingTables]
  rw [hJ, strstr_eq_zero_of_isPrefixOf (List.prefix_append _ _)]
  dsimp only
  rw [Nat.zero_add, List.drop_left, scanTableName_append hTs hTe hTl, hdrop,
    scanRoutingTables_append content fuel hrest]

/-- **The scan over a well-formed file** visits the sections in order and takes the commands of
each `routing_table_<T>` section, whatever text `content` the sections are then read from. -/
theorem scanRoutingTables_factsContent (content : List Char) {secs : List Section}
    (hnames : ∀ s ∈ secs, NameOk s.name) (hlines : ∀ s ∈ secs, ∀ l ∈ s.lines, LineOk l)
    (fuel : Nat) (hfuel : (factsContent secs).length < fuel) :
    scanRoutingTables content fuel (factsContent secs) =
      secs.flatMap (sectionRouteCommands content) := by
  induction secs generalizing fuel with
  | nil => cases fuel <;> rfl
  | cons s secs ih =>
    have ih' := ih (fun p hp => hnames p (List.mem_cons_of_mem s hp))
      fun p hp => hlines p (List.mem_cons_of_mem s hp)
    have hfc : factsContent (s :: secs) = joinLines s.fileLines ++ factsContent secs := by
      simp [factsContent]
    have hpos : 0 < (joinLines s.fileLines).length := by simp [Section.fileLines]
    rw [hfc] at hfuel ⊢
    rw [List.length_append] at hfuel
    have hs := hnames s (List.mem_cons_self s secs)
    have hl := hlines s (List.mem_cons_self s secs)
    rw [List.flatMap_cons, sectionRouteCommands]
    cases hT : routingTableName s.name with
    | none =>
      rw [scanRoutingTables_otherSection content fuel hs hl hT, ih' fuel (by omega),
        List.nil_append]
    | some T =>
      obtain ⟨fuel, rfl⟩ : ∃ f, fuel = f + 1 := ⟨fuel - 1, by omega⟩
      rw [scanRoutingTables_routingSection content fuel hs hl (eq_of_routingTableName hT),
        ih' fuel (by omega)]

/-! ## (3) Reading a routing table back -/

theorem trimLine_rdropWhile {p : Char → Bool} (hp : ∀ c, p c → isspace c) (l : List Char) :
    trimLine (l.rdropWhile p) = trimLine l := by
  induction l using List.reverseRecOn with
  | nil => rfl
  | append_singleton l x ih =>
    by_cases hx : p x
    · have hq : isspace x := hp x hx
      rw [List.rdropWhile_concat_pos _ _ _ hx, ih]
      simp only [trimLine, List.dropWhile_append]
      by_cases he : (l.dropWhile isspace).isEmpty
      · rw [if_pos he, List.isEmpty_iff.mp he]
        simp [hq]
      · rw [if_neg he, List.rdropWhile_concat_pos _ _ _ hq]
    · rw [List.rdropWhile_concat_neg _ _ _ hx]

theorem trimLine_of_blank {l : List Char} (h : ∀ c ∈ l, isTrailingSpace c) : trimLine l = [] := by
  rw [trimLine, List.dropWhile_eq_nil_iff.mpr fun c hc => isspace_of_isTrailingSpace (h c hc)]
  rfl

theorem routeLine_exitLine (T : List Char) (n : Nat) : routeLine T (exitLine n) = none := by
  rw [routeLine, if_pos (Or.inr (by
    rw [exitLine, strstr_eq_zero_of_isPrefixOf (List.prefix_append _ _)]; rfl))]

theorem routeLine_of_blank {T l : List Char} (h : ∀ c ∈ l, isTrailingSpace c) :
    routeLine T l = none := by
  rw [routeLine]
  split
  · rfl
  · rw [if_pos (trimLine_of_blank h)]

/-- **Trailing whitespace does not change a route line**, once it holds no `EXIT_CODE:`. -/
theorem routeLine_trimTrailing {T l : List Char} (hl : strstr l "EXIT_CODE:".toList = none) :
    routeLine T (trimTrailing l) = routeLine T l := by
  have hp : strstr (trimTrailing l) "EXIT_CODE:".toList = none :=
    strstr_eq_none_iff.mpr fun j h =>
      strstr_eq_none_iff.mp hl j (h.trans ((List.rdropWhile_prefix _ _).drop j))
  have ht : trimLine (trimTrailing l) = trimLine l :=
    trimLine_rdropWhile (fun _ => isspace_of_isTrailingSpace) l
  by_cases he : trimTrailing l = []
  · have h0 : trimLine l = [] := by rw [← ht, he]; rfl
    simp [routeLine, he, h0]
  · have hne : l ≠ [] := fun h => he (by simp [h, trimTrailing])
    simp only [routeLine, hp, hl, ht, he, hne, false_or, Option.isSome_none]

/-- **A routing table section is read back line by line.** -/
theorem tableRouteCommands_factsContent {secs : List Section} (hwf : WellFormed secs)
    {s : Section} (hs : s ∈ secs) {T : List Char} (hT : s.name = "routing_table_".toList ++ T)
    (hdash : strstr s.name "---".toList = none) :
    tableRouteCommands (factsContent secs) T = s.lines.filterMap (routeLine T) := by
  have h := filterMap_strtokLines_findSection hwf hs hdash (by simp [routeLine])
    (routeLine_exitLine T) (fun _ _ hb => routeLine_of_blank hb)
    fun l hl => routeLine_trimTrailing (hwf.lines s hs l hl).no_exitCode
  have htake : ("routing_table_".toList ++ T).take 255 = s.name := by
    rw [← hT]
    exact List.take_of_length_le (by have := (hwf.names s hs).length_le; omega)
  rw [tableRouteCommands, htake]
  cases hf : findSection (factsContent secs) s.name with
  | none => rw [hf] at h; cases h
  | some body =>
    rw [hf, Option.map_some', Option.some_inj] at h
    exact h

/-- **The raw route commands of a well-formed file**: for each `routing_table_<T>` section in
file order, with `T` not empty, the route lines of its body. -/
theorem routingTableCommands_factsContent {secs : List Section} (hwf : WellFormed secs)
    (hdash : ∀ s ∈ secs, (routingTableName s.name).isSome → strstr s.name "---".toList = none) :
    routingTableCommands (factsContent secs) = secs.flatMap fun s =>
      match routingTableName s.name with
      | some T => if T = [] then [] else s.lines.filterMap (routeLine T)
      | none => [] := by
  rw [routingTableCommands,
    scanRoutingTables_factsContent _ hwf.names hwf.lines _ (Nat.lt_succ_self _)]
  refine List.flatMap_congr fun s hs => ?_
  rw [sectionRouteCommands]
  cases hT : routingTableName s.name with
  | none => rfl
  | some T =>
    simp only
    split
    · rfl
    · exact tableRouteCommands_factsContent hwf hs (eq_of_routingTableName hT)
        (hdash s hs (by simp [hT]))

/-! ## (4) One facts file -/

/-- **`load_router_facts(path, router)`** once the file is read into `content`: the interfaces,
the rules and the route commands are appended to the router's arrays, and the two raw blocks are
the bodies of their sections. -/
def loadRouterFacts (parseInterfaces : List Char → List Interface) (router : Router)
    (content : List Char) : Router :=
  { router with
    interfaces := router.interfaces ++ parseInterfaces content
    rules := router.rules ++ parseRulesSection content
    rawRouteCommands := router.rawRouteCommands ++ routingTableCommands content
    iptablesSave := findSection content "iptables_save".toList
    ipsetSave := findSection content "ipset_save".toList }

@[simp] theorem loadRouterFacts_name (parseInterfaces : List Char → List Interface)
    (router : Router) (content : List Char) :
    (loadRouterFacts parseInterfaces router content).name = router.name := rfl

@[simp] theorem loadRouterFacts_rules (parseInterfaces : List Char → List Interface)
    (name content : List Char) :
    (loadRouterFacts parseInterfaces (createRouter name) content).rules =
      parseRulesSection content := rfl

@[simp] theorem loadRouterFacts_rawRouteCommands (parseInterfaces : List Char → List Interface)
    (name content : List Char) :
    (loadRouterFacts parseInterfaces (createRouter name) content).rawRouteCommands =
      routingTableCommands content := rfl

/-! ## (5) The facts directory -/

/-- **A directory entry**: `d_name`, and the file's text when `fopen` succeeds. -/
structure DirEntry where
  /-- `d_name`. -/
  name : List Char
  /-- The whole file, or `none` when it cannot be opened. -/
  content : Option (List Char)
  deriving DecidableEq, Repr

/-- **The router name of a file name**: what precedes the first `_facts.txt`, when it is shorter
than `MAX_NAME_LEN`; otherwise `router_name` stays empty. -/
def factsRouterName (dName : List Char) : List Char :=
  match strstr dName "_facts.txt".toList with
  | some i => if i < 64 then dName.take i else []
  | none => []

/-- **One turn of the `readdir` loop**: skip a name without `_facts.txt`, an empty router name and
one the filter pattern is not in; otherwise load the file into a new router and append it, unless
the file cannot be read. -/
def loadFactsEntry (parseInterfaces : List Char → List Interface)
    (filterPattern : Option (List Char)) (ctx : FactsContext) (e : DirEntry) : FactsContext :=
  if (strstr e.name "_facts.txt".toList).isNone then ctx
  else if factsRouterName e.name = [] then ctx
  else if filterPattern.any (fun p => (strstr (factsRouterName e.name) p).isNone) then ctx
  else match e.content with
    | none => ctx
    | some content =>
      ⟨ctx.routers ++ [loadRouterFacts parseInterfaces (createRouter (factsRouterName e.name)) content]⟩

/-- **`load_facts_from_env_filtered(ctx, verbose, filter_pattern)`** over the entries of the
facts directory in `readdir` order; `none` when the variable is unset or the directory cannot be
opened. -/
def loadFactsFromEnvFiltered (parseInterfaces : List Char → List Interface)
    (factsDir : Option (List DirEntry)) (filterPattern : Option (List Char)) :
    Option FactsContext :=
  factsDir.map fun entries => entries.foldl (loadFactsEntry parseInterfaces filterPattern) ⟨[]⟩

/-- **A backup copy loads a second router of the same name**: `strstr` finds `_facts.txt` inside
`r1_facts.txt~` too, and the name before it is `r1` again. -/
theorem loadFactsFromEnvFiltered_backup_copy (parseInterfaces : List Char → List Interface) :
    (loadFactsFromEnvFiltered parseInterfaces
      (some [⟨"r1_facts.txt".toList, some []⟩, ⟨"r1_facts.txt~".toList, some []⟩]) none).map
      (fun ctx => ctx.routers.map Router.name) = some ["r1".toList, "r1".toList] := rfl

end TracerouteSimulator.Facts
