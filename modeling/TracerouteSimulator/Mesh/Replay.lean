import TracerouteSimulator.Facts.Loader
import TracerouteSimulator.Facts.Interfaces
import TracerouteSimulator.Mesh.Setup

/-! # Replaying a router's facts

After the interfaces, `setup_router_with_veth` queues every raw route command that
`load_router_facts` stored, then one `ip rule add` per policy rule. This module follows a facts
file from the loader to the lines of the batch script.

* **`routeAdd`**, **`expectedRoutes`** — the route commands a facts file asks for.
* **`RuleLine.command`** — the `ip rule add` command a rule line asks for.
* **`replayScript`** — the script lines `ip netns exec R <command> 2>/dev/null || true`.
* **`queueRoutes_loadRouterFacts`**, **`queueRules_loadRouterFacts`** — what the route and rule
  loops append to the batch, when they run to the end and the batch has room. -/

namespace TracerouteSimulator.Facts

/-- **The command for a rule line**: `ip rule add priority P [from S] [to D] [iif I] [oif O]
[fwmark 0xM] lookup T`, with `from S` when `S` is not `all` and each other clause when the line
has it. -/
def RuleLine.command (r : RuleLine) : List Char :=
  "ip rule add priority ".toList ++ decimal r.priority ++
    (if r.src = "all".toList then [] else " from ".toList ++ r.src) ++
    (r.dst.map (" to ".toList ++ ·)).getD [] ++ (r.iif.map (" iif ".toList ++ ·)).getD [] ++
    (r.oif.map (" oif ".toList ++ ·)).getD [] ++
    (r.fwmark.map fun m => " fwmark 0x".toList ++ hexadecimal m).getD [] ++
    " lookup ".toList ++ r.table

end TracerouteSimulator.Facts

namespace TracerouteSimulator.Mesh

open Registry Facts

/-! ## (1) What the replay asks for -/

/-- **The command for route line `L` of table `T`**: `ip route add L` for `main`, and
`ip route add table T L` for any other table. -/
def routeAdd (T L : List Char) : List Char :=
  if T = "main".toList then "ip route add ".toList ++ L
  else "ip route add table ".toList ++ T ++ ' ' :: L

/-- **The route commands of a facts file**, in section order and then line order: for each
`routing_table_<T>` section with `T` not empty, one per line that is not blank once trimmed. -/
def expectedRoutes (secs : List Section) : List (List Char) :=
  secs.flatMap fun s => match routingTableName s.name with
    | some T => if T = [] then [] else
        ((s.lines.map trimLine).filter fun L => !L.isEmpty).map (routeAdd T)
    | none => []

/-- `" 2>/dev/null || true"`, the guard after every replayed command. -/
def orTrue : List Char := " 2>/dev/null || true".toList

/-- **The script lines of router `R`**: `ip netns exec R <command> 2>/dev/null || true`, one per
command. -/
def replayScript (R : List Char) (cmds : List (List Char)) : List Char :=
  cmds.flatMap fun c => "ip netns exec ".toList ++ R ++ ' ' :: (c ++ orTrue) ++ ['\n']

/-! ## (2) Lines that fit their buffers -/

theorem orTrue_length : orTrue.length = 20 := rfl

/-- A command of a short router name that fits its buffer becomes its script line. -/
theorem batchLine_orTrue {R c : List Char} (hR : R.length < 64) (hc : (c ++ orTrue).length ≤ 1023) :
    batchLine R (c ++ orTrue) = "ip netns exec ".toList ++ R ++ ' ' :: (c ++ orTrue) ++ ['\n'] :=
  batchLine_eq (by omega)

theorem routeCommand_of_length {raw : List Char} (h : raw.length ≤ 1003) :
    routeCommand raw = raw ++ orTrue :=
  List.take_of_length_le (by simp; omega)

/-- **A route line that fits `cmd[1024]` with its guard** is stored as its `ip route add`. -/
theorem routeLine_eq {T l : List Char} (hl : strstr l "EXIT_CODE:".toList = none)
    (hlen : (routeAdd T (trimLine l)).length ≤ 1003) :
    routeLine T l = if trimLine l = [] then none else some (routeAdd T (trimLine l)) := by
  by_cases h0 : trimLine l = []
  · simp [routeLine, h0]
  · have hne : l ≠ [] := fun h => h0 (by rw [h]; rfl)
    have hx : ¬ (l = [] ∨ (strstr l "EXIT_CODE:".toList).isSome = true) := by
      rintro (h | h)
      · exact hne h
      · rw [hl] at h; exact absurd h (by decide)
    rw [routeLine, if_neg hx, if_neg h0, if_neg h0,
      show (if T = "main".toList then "ip route add ".toList ++ trimLine l
        else "ip route add table ".toList ++ T ++ ' ' :: trimLine l) = routeAdd T (trimLine l)
        from rfl, List.take_of_length_le (by omega)]

theorem filterMap_routeLine {T : List Char} :
    ∀ {ls : List (List Char)}, (∀ l ∈ ls, strstr l "EXIT_CODE:".toList = none) →
      (∀ l ∈ ls, (routeAdd T (trimLine l)).length ≤ 1003) →
      ls.filterMap (routeLine T) =
        ((ls.map trimLine).filter fun L => !L.isEmpty).map (routeAdd T)
  | [], _, _ => rfl
  | l :: ls, hx, hlen => by
    rw [List.filterMap_cons, routeLine_eq (hx l (List.mem_cons_self l ls))
      (hlen l (List.mem_cons_self l ls)), filterMap_routeLine
      (fun x hx' => hx x (List.mem_cons_of_mem l hx')) fun x hx' => hlen x (List.mem_cons_of_mem l hx')]
    by_cases h0 : trimLine l = [] <;> simp [h0]

/-- **The raw route commands a well-formed file stores** are its expected routes. -/
theorem routingTableCommands_eq_expectedRoutes {secs : List Section} (hwf : WellFormed secs)
    (hdash : ∀ s ∈ secs, (routingTableName s.name).isSome → strstr s.name "---".toList = none)
    (hlen : ∀ s ∈ secs, ∀ T ∈ routingTableName s.name, ∀ l ∈ s.lines,
      (routeAdd T (trimLine l)).length ≤ 1003) :
    routingTableCommands (factsContent secs) = expectedRoutes secs := by
  rw [routingTableCommands_factsContent hwf hdash, expectedRoutes]
  refine List.flatMap_congr fun s hs => ?_
  cases hT : routingTableName s.name with
  | none => rfl
  | some T =>
    simp only
    split
    · rfl
    · exact filterMap_routeLine (fun l hl => (hwf.lines s hs l hl).no_exitCode)
        (hlen s hs T hT)

theorem length_of_mem_expectedRoutes {secs : List Section}
    (hlen : ∀ s ∈ secs, ∀ T ∈ routingTableName s.name, ∀ l ∈ s.lines,
      (routeAdd T (trimLine l)).length ≤ 1003) {c : List Char} (hc : c ∈ expectedRoutes secs) :
    c.length ≤ 1003 := by
  obtain ⟨s, hs, hc⟩ := List.mem_flatMap.mp hc
  cases hT : routingTableName s.name with
  | none => simp [hT] at hc
  | some T =>
    simp only [hT] at hc
    split at hc
    · simp at hc
    · obtain ⟨L, hL, rfl⟩ := List.mem_map.mp hc
      obtain ⟨l, hl, rfl⟩ := List.mem_map.mp (List.mem_filter.mp hL).1
      exact hlen s hs T hT l hl

/-! ## (3) The two loops -/

/-- **The route loop replays a well-formed facts file.** When the loop is not interrupted and
the batch has room, it appends `ip netns exec R ip route add [table T] L 2>/dev/null || true`
for each line `L` (trimmed, not blank) of each `routing_table_<T>` section, in file order. -/
theorem queueRoutes_loadRouterFacts {secs : List Section} (hwf : WellFormed secs)
    (hdash : ∀ s ∈ secs, (routingTableName s.name).isSome → strstr s.name "---".toList = none)
    (hlen : ∀ s ∈ secs, ∀ T ∈ routingTableName s.name, ∀ l ∈ s.lines,
      (routeAdd T (trimLine l)).length ≤ 1003)
    (parseInterfaces : List Char → List Interface) {R : List Char} (hR : R.length < 64)
    {w : World} (hw : ∀ t, w.interrupted t = false) {st : SetupState} (t : Nat)
    (hroom : st.batch.script.length + (replayScript R (expectedRoutes secs)).length <
      st.batch.capacity) :
    (queueRoutes w R (loadRouterFacts parseInterfaces (createRouter R)
      (factsContent secs)).rawRouteCommands (st, t)).1.batch.script =
      st.batch.script ++ replayScript R (expectedRoutes secs) := by
  have hlines : (expectedRoutes secs).flatMap (fun c => batchLine R (routeCommand c)) =
      replayScript R (expectedRoutes secs) := by
    refine List.flatMap_congr fun c hc => ?_
    have hc' := length_of_mem_expectedRoutes hlen hc
    rw [routeCommand_of_length hc', batchLine_orTrue hR (by simp [orTrue_length]; omega)]
  rw [loadRouterFacts_rawRouteCommands, routingTableCommands_eq_expectedRoutes hwf hdash hlen,
    queueRoutes, queueEach_of_room hw _ _ _ _ _ (by rw [hlines]; exact hroom), hlines]

/-- **A main table written as a plain `routing_table` section is not replayed**: the loader looks
for `routing_table_`, so the file's default route gives no command and the loop leaves the batch as
it was. -/
theorem queueRoutes_loadRouterFacts_plain_routingTable :
    WellFormed [⟨"routing_table".toList, ["default via 10.0.0.1 dev eth0".toList], 0⟩] ∧
      expectedRoutes [⟨"routing_table".toList, ["default via 10.0.0.1 dev eth0".toList], 0⟩] = [] ∧
      (queueRoutes ⟨fun _ => true, fun _ => false, true, 0⟩ "r1".toList
        (loadRouterFacts loadInterfaces (createRouter "r1".toList) (factsContent
          [⟨"routing_table".toList, ["default via 10.0.0.1 dev eth0".toList], 0⟩])).rawRouteCommands
        (⟨cleared, createBatchContext (1024 * 1024), []⟩, 0)).1.batch.script =
        (createBatchContext (1024 * 1024)).script :=
  ⟨by decide, by decide, (queueRoutes_loadRouterFacts (by decide) (by decide) (by decide) _
    (by decide) (fun _ => rfl) 0 (by decide)).trans (List.append_nil _)⟩

theorem intDecimal_ofNat (n : Nat) : intDecimal n = decimal n := by
  simp [intDecimal]

theorem optionalField_eq (key : List Char) (o : Option (List Char)) :
    optionalField key o = (o.map ((' ' :: key ++ [' ']) ++ ·)).getD [] := by
  cases o <;> simp [optionalField]

/-- **The rule read from a line is replayed as the line asks**, guard included. -/
theorem ruleCommand_rule {r : RuleLine} (hok : r.Ok) : ruleCommand r.rule = r.command ++ orTrue := by
  have hfw : (if r.rule.fwmark ≠ 0 then " fwmark 0x".toList ++ hexadecimal r.rule.fwmark else []) =
      (r.fwmark.map fun m => " fwmark 0x".toList ++ hexadecimal m).getD [] := by
    cases h : r.fwmark with
    | none => simp [RuleLine.rule, h]
    | some m => simp [RuleLine.rule, h, (hok.fwmark_ok m h).1]
  have hsrc : optionalField "from".toList r.rule.src =
      if r.src = "all".toList then [] else " from ".toList ++ r.src := by
    by_cases h : r.src = "all".toList
    · rw [if_pos h]; simp only [RuleLine.rule, if_pos h]; rfl
    · rw [if_neg h]; simp only [RuleLine.rule, if_neg h]; rfl
  rw [ruleCommand, hfw, hsrc, RuleLine.command, show r.rule.priority = (r.priority : Int) from rfl,
    intDecimal_ofNat]
  simp only [optionalField_eq, List.append_assoc]
  rfl

/-- **The rule loop replays a `policy_rules` section of rule lines.** When the loop is not
interrupted, each command fits `cmd[512]` and the batch has room, it appends
`ip netns exec R ip rule add priority P ... lookup T 2>/dev/null || true` for each rule line,
in order. -/
theorem queueRules_loadRouterFacts {secs : List Section} (hwf : WellFormed secs) {s : Section}
    (hs : s ∈ secs) (hname : s.name = "policy_rules".toList) {rs : List RuleLine}
    (hlines : s.lines = rs.map RuleLine.text) (hok : ∀ r ∈ rs, r.Ok)
    (hlen : ∀ r ∈ rs, (r.command ++ orTrue).length < 512)
    (parseInterfaces : List Char → List Interface) {R : List Char} (hR : R.length < 64)
    {w : World} (hw : ∀ t, w.interrupted t = false) {st : SetupState} (t : Nat)
    (hroom : st.batch.script.length + (replayScript R (rs.map RuleLine.command)).length <
      st.batch.capacity) :
    (queueRules w R (loadRouterFacts parseInterfaces (createRouter R)
      (factsContent secs)).rules (st, t)).1.batch.script =
      st.batch.script ++ replayScript R (rs.map RuleLine.command) := by
  have hscript : (rs.map RuleLine.rule).flatMap (fun x => batchLine R (ruleCommand x)) =
      replayScript R (rs.map RuleLine.command) := by
    rw [replayScript, List.flatMap_map, List.flatMap_map]
    refine List.flatMap_congr fun r hr => ?_
    rw [ruleCommand_rule (hok r hr), batchLine_orTrue hR (by have := hlen r hr; omega)]
  rw [loadRouterFacts_rules, parseRulesSection_factsContent hwf hs hname hlines hok, queueRules,
    queueEach_of_room hw _ _ _ _ _ (by rw [hscript]; exact hroom), hscript]

/-- **Three rule lines the replay changes**: `ipproto` ends with the keyword `to`, so a line
without a `to` clause is replayed with `to tcp`; the priority `2^31` wraps to a negative `int`;
and the mark `2^32` is stored as `0`, so its clause is dropped. -/
theorem ruleCommands_misreplayed :
    WellFormed [⟨"policy_rules".toList, ["0:\tfrom all ipproto tcp lookup main".toList,
        "2147483648:\tfrom all lookup main".toList,
        "100:\tfrom all fwmark 0x100000000 lookup main".toList], 0⟩] ∧
      (parseRulesSection (factsContent [⟨"policy_rules".toList,
        ["0:\tfrom all ipproto tcp lookup main".toList, "2147483648:\tfrom all lookup main".toList,
          "100:\tfrom all fwmark 0x100000000 lookup main".toList], 0⟩])).map ruleCommand =
        ["ip rule add priority 0 to tcp lookup main 2>/dev/null || true".toList,
          "ip rule add priority -2147483648 lookup main 2>/dev/null || true".toList,
          "ip rule add priority 100 lookup main 2>/dev/null || true".toList] := by
  set_option maxRecDepth 8000 in decide

set_option maxRecDepth 8000 in
theorem queueRules_loadRouterFacts_two_rules :
    [(⟨0, "all".toList, none, none, none, none, none, none, none, none, "local".toList⟩ : RuleLine),
        ⟨100, "10.0.0.0/8".toList, some "10.1.0.0/16".toList, none, some 16, some "eth0".toList,
          none, some "tcp".toList, none, none, "100".toList⟩].map RuleLine.command =
        ["ip rule add priority 0 lookup local".toList,
          "ip rule add priority 100 from 10.0.0.0/8 to 10.1.0.0/16 iif eth0 fwmark 0x10 lookup 100".toList] ∧
      (queueRules ⟨fun _ => true, fun _ => false, true, 0⟩ "r1".toList
        (loadRouterFacts loadInterfaces (createRouter "r1".toList) (factsContent
          [⟨"policy_rules".toList, [(⟨0, "all".toList, none, none, none, none, none, none, none, none,
            "local".toList⟩ : RuleLine), ⟨100, "10.0.0.0/8".toList, some "10.1.0.0/16".toList, none,
            some 16, some "eth0".toList, none, some "tcp".toList, none, none, "100".toList⟩].map
            RuleLine.text, 0⟩])).rules
        (⟨cleared, createBatchContext (1024 * 1024), []⟩, 0)).1.batch.script =
        (createBatchContext (1024 * 1024)).script ++ replayScript "r1".toList
          ([(⟨0, "all".toList, none, none, none, none, none, none, none, none, "local".toList⟩ : RuleLine),
            ⟨100, "10.0.0.0/8".toList, some "10.1.0.0/16".toList, none, some 16, some "eth0".toList,
              none, some "tcp".toList, none, none, "100".toList⟩].map RuleLine.command) :=
  ⟨by decide, queueRules_loadRouterFacts (by decide) (List.mem_singleton_self _) rfl rfl (by decide)
    (by decide) _ (by decide) (fun _ => rfl) 0 (by decide)⟩

end TracerouteSimulator.Mesh
