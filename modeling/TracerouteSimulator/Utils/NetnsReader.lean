import TracerouteSimulator.CString

/-! # `netns_reader`

`netns_reader <namespace> <command> [args...]` enters a network namespace and runs one read-only
command there. The binary carries `CAP_SYS_ADMIN`, so its checks are a trust boundary: the
namespace name must stay inside `/var/run/netns`, the command and its arguments must be on the
whitelist, and the privileges are dropped before `execv`.

* **`Sys`**, **`Call`**, **`Outcome`** — what the system answers, the calls the program makes,
  and how it ends.
* **`getCommandPath`**, **`validateArgs`**, **`validateNamespace`**, **`enterNamespaceAndExec`**,
  **`main`** — the program.
* **`execv_mem_main`** — `execv` is reached only after every check has passed and both privilege
  drops have succeeded; **`main_of_valid`** — every request that passes the checks goes on to
  `enter_namespace_and_exec`.
* **`specArgs`** — the whitelist's argument language, with numeric table ids. `validateArgs`
  accepts all of it (`validateArgs_of_specArgs`) and more (`main_execs_signed_table_id`). -/

namespace TracerouteSimulator.NetnsReader

/-! ## (1) The system and the whitelist -/

/-- **What the system answers.** -/
structure Sys where
  /-- `stat(path, &st) == 0`. -/
  stat : List Char → Bool
  /-- `opendir(NETNS_PATH)` succeeds, for `--list`. -/
  listOk : Bool
  /-- `open(path, O_RDONLY)` succeeds. -/
  openOk : List Char → Bool
  /-- `setns(nsfd, CLONE_NEWNET)` succeeds. -/
  setnsOk : Bool
  /-- `setgid(getgid())` succeeds. -/
  setgidOk : Bool
  /-- `setuid(getuid())` succeeds. -/
  setuidOk : Bool
  /-- `execv` replaces the process. -/
  execvOk : Bool

/-- **The system calls the program makes**, in order. -/
inductive Call
  /-- `list_namespaces()`. -/
  | listNamespaces
  /-- `stat(path, &st)`. -/
  | stat (path : List Char)
  /-- `open(path, O_RDONLY)`. -/
  | openNs (path : List Char)
  /-- `setns(nsfd, CLONE_NEWNET)`. -/
  | setns
  /-- `setgid(real_gid)`. -/
  | setgid
  /-- `setuid(real_uid)`. -/
  | setuid
  /-- `execv(path, argv)`. -/
  | execv (path : List Char) (argv : List (List Char))
  deriving DecidableEq, Repr

/-- **How the program ends**: an exit status, or the process image replaced by `execv`. -/
inductive Outcome
  | exit (status : Nat)
  | exec
  deriving DecidableEq, Repr

/-- `allowed_commands`: each command and the path it runs. -/
def allowedCommands : List (List Char × List Char) :=
  [("ip".toList, "/usr/sbin/ip".toList),
    ("iptables-save".toList, "/usr/sbin/iptables-save".toList),
    ("ip6tables-save".toList, "/usr/sbin/ip6tables-save".toList),
    ("ipset".toList, "/usr/sbin/ipset".toList), ("ss".toList, "/usr/bin/ss".toList),
    ("netstat".toList, "/usr/bin/netstat".toList)]

/-- `allowed_ip_args`. -/
def allowedIpArgs : List (List Char) :=
  ["addr".toList, "show".toList, "route".toList, "show".toList, "table".toList, "rule".toList,
    "show".toList, "link".toList, "show".toList, "-j".toList, "-json".toList, "-details".toList]

/-- `allowed_ipset_args`. -/
def allowedIpsetArgs : List (List Char) := ["list".toList, "-n".toList, "-name".toList]

/-- **`get_command_path(cmd)`**: the path of the whitelist entry named `cmd`. -/
def getCommandPath (cmd : List Char) : Option (List Char) :=
  (allowedCommands.find? fun e => e.1 = cmd).map Prod.snd

/-! ## (2) `validate_args` -/

/-- **The `ip` loop of `validate_args`** with a given test for table ids: each argument is an
allowed word or, right after `table`, passes `tableId`. `prev` is `argv[i-1]`. -/
def ipArgsWith (tableId : List Char → Bool) : Option (List Char) → List (List Char) → Bool
  | _, [] => true
  | prev, a :: as =>
    (decide (a ∈ allowedIpArgs) || (prev == some "table".toList && tableId a)) &&
      ipArgsWith tableId (some a) as

/-- **The checks of `validate_args`** with a given test for table ids: `ip` as above, `ipset`
with allowed words only, `iptables-save` and `ip6tables-save` with no argument; every other
command passes. -/
def argsWith (tableId : List Char → Bool) (cmd : List Char) (args : List (List Char)) : Bool :=
  if cmd = "ip".toList then ipArgsWith tableId none args
  else if cmd = "ipset".toList then args.all fun a => decide (a ∈ allowedIpsetArgs)
  else if cmd = "iptables-save".toList ∨ cmd = "ip6tables-save".toList then args.isEmpty
  else true

/-- **The table-id test of `validate_args`**: `strtol(arg, &endptr, 10)` leaves `*endptr == '\0'`. -/
def strtolWhole (a : List Char) : Bool := (strtol a).2.isEmpty

/-- **`validate_args(cmd, argv, argc)`**. -/
def validateArgs (cmd : List Char) (args : List (List Char)) : Bool :=
  argsWith strtolWhole cmd args

/-- **A numeric table id**, as the whitelist means it: a non-empty string of decimal digits. -/
def isTableId (a : List Char) : Bool := !a.isEmpty && a.all Char.isDigit

/-- **The whitelist's argument language**, with numeric table ids. -/
def specArgs (cmd : List Char) (args : List (List Char)) : Bool := argsWith isTableId cmd args

theorem ipArgsWith_mono {t₁ t₂ : List Char → Bool} (h : ∀ a, t₁ a → t₂ a) :
    ∀ (prev : Option (List Char)) (args : List (List Char)),
      ipArgsWith t₁ prev args → ipArgsWith t₂ prev args
  | _, [], _ => rfl
  | prev, a :: as, hargs => by
    simp only [ipArgsWith, Bool.and_eq_true, Bool.or_eq_true] at hargs ⊢
    obtain ⟨ha | ⟨hp, ht⟩, has⟩ := hargs
    · exact ⟨Or.inl ha, ipArgsWith_mono h _ as has⟩
    · exact ⟨Or.inr ⟨hp, h a ht⟩, ipArgsWith_mono h _ as has⟩

theorem argsWith_mono {t₁ t₂ : List Char → Bool} (h : ∀ a, t₁ a → t₂ a) {cmd : List Char}
    {args : List (List Char)} (hargs : argsWith t₁ cmd args) : argsWith t₂ cmd args := by
  unfold argsWith at hargs ⊢
  split
  · rename_i hc
    rw [if_pos hc] at hargs
    exact ipArgsWith_mono h none args hargs
  · rename_i hc
    rwa [if_neg hc] at hargs

theorem strtolWhole_of_isTableId {a : List Char} (h : isTableId a) : strtolWhole a := by
  have hne : a ≠ [] := by rintro rfl; simp [isTableId] at h
  have hd : ∀ c ∈ a, c.isDigit := by
    simp only [isTableId, Bool.and_eq_true, List.all_eq_true] at h
    exact h.2
  rw [strtolWhole, ← List.append_nil a, strtol_snd_digits_append hd hne (by simp)]
  rfl

/-- **Every argument list of the whitelist's language passes `validate_args`.** -/
theorem validateArgs_of_specArgs {cmd : List Char} {args : List (List Char)}
    (h : specArgs cmd args) : validateArgs cmd args :=
  argsWith_mono (fun _ => strtolWhole_of_isTableId) h

/-! ## (3) The program -/

/-- `nspath[256]`: `snprintf(nspath, sizeof(nspath), "%s/%s", NETNS_PATH, nsname)`. -/
def nsPath (nsname : List Char) : List Char := ("/var/run/netns/".toList ++ nsname).take 255

/-- **`validate_namespace(nsname)`**: no `/` and no `..` in the name, and `stat` finds the file;
the calls it makes, and its answer. -/
def validateNamespace (sys : Sys) (nsname : List Char) : List Call × Bool :=
  if (strstr nsname "/".toList).isSome || (strstr nsname "..".toList).isSome then ([], false)
  else ([.stat (nsPath nsname)], sys.stat (nsPath nsname))

/-- **`enter_namespace_and_exec(nsname, cmd_path, argv)`**: open the namespace file, enter it,
drop the group and then the user privileges, and `execv`; each failure returns `1`. -/
def enterNamespaceAndExec (sys : Sys) (nsname cmdPath : List Char) (argv : List (List Char)) :
    List Call × Outcome :=
  if !sys.openOk (nsPath nsname) then ([.openNs (nsPath nsname)], .exit 1)
  else if !sys.setnsOk then ([.openNs (nsPath nsname), .setns], .exit 1)
  else if !sys.setgidOk then ([.openNs (nsPath nsname), .setns, .setgid], .exit 1)
  else if !sys.setuidOk then ([.openNs (nsPath nsname), .setns, .setgid, .setuid], .exit 1)
  else ([.openNs (nsPath nsname), .setns, .setgid, .setuid, .execv cmdPath argv],
    if sys.execvOk then .exec else .exit 1)

/-- **The checks of `main` on a request `nsname cmd args...`**: the namespace, the command, and
at most `MAX_ARGS - 2 = 30` arguments, then `enter_namespace_and_exec` with `exec_argv`, the
command followed by those arguments. -/
def mainRequest (sys : Sys) (nsname cmd : List Char) (args : List (List Char)) :
    List Call × Outcome :=
  if !(validateNamespace sys nsname).2 then ((validateNamespace sys nsname).1, .exit 1)
  else match getCommandPath cmd with
    | none => ((validateNamespace sys nsname).1, .exit 1)
    | some cmdPath =>
      if !validateArgs cmd (args.take 30) then ((validateNamespace sys nsname).1, .exit 1)
      else
        ((validateNamespace sys nsname).1 ++
            (enterNamespaceAndExec sys nsname cmdPath (cmd :: args.take 30)).1,
          (enterNamespaceAndExec sys nsname cmdPath (cmd :: args.take 30)).2)

/-- **`main(argc, argv)`**: usage errors, `--list`, or a request. -/
def main (sys : Sys) (argv : List (List Char)) : List Call × Outcome :=
  match argv with
  | _ :: nsname :: rest =>
    if nsname = "--list".toList then ([.listNamespaces], if sys.listOk then .exit 0 else .exit 1)
    else match rest with
      | [] => ([], .exit 1)
      | cmd :: args => mainRequest sys nsname cmd args
  | _ => ([], .exit 1)

theorem main_request {sys : Sys} {a₀ nsname cmd : List Char} {args : List (List Char)}
    (hl : nsname ≠ "--list".toList) :
    main sys (a₀ :: nsname :: cmd :: args) = mainRequest sys nsname cmd args := by
  simp only [main, if_neg hl]

/-! ## (4) When `execv` is reached -/

theorem validateNamespace_eq_true {sys : Sys} {nsname : List Char}
    (h : (validateNamespace sys nsname).2 = true) :
    strstr nsname "/".toList = none ∧ strstr nsname "..".toList = none ∧
      sys.stat (nsPath nsname) ∧ (validateNamespace sys nsname).1 = [.stat (nsPath nsname)] := by
  by_cases hc : ((strstr nsname "/".toList).isSome || (strstr nsname "..".toList).isSome) = true
  · rw [validateNamespace, if_pos hc] at h
    cases h
  · rw [validateNamespace, if_neg hc] at h ⊢
    simp only [Bool.or_eq_true, not_or] at hc
    exact ⟨Option.not_isSome_iff_eq_none.mp hc.1, Option.not_isSome_iff_eq_none.mp hc.2, h, rfl⟩

theorem execv_not_mem_validateNamespace (sys : Sys) (nsname p : List Char)
    (ea : List (List Char)) : Call.execv p ea ∉ (validateNamespace sys nsname).1 := by
  unfold validateNamespace
  split <;> simp

/-- **`enter_namespace_and_exec` calls `execv` only after both privilege drops succeeded.** -/
theorem enterNamespaceAndExec_execv {sys : Sys} {nsname cmdPath p : List Char}
    {argv ea : List (List Char)}
    (h : Call.execv p ea ∈ (enterNamespaceAndExec sys nsname cmdPath argv).1) :
    p = cmdPath ∧ ea = argv ∧ sys.setgidOk ∧ sys.setuidOk ∧
      (enterNamespaceAndExec sys nsname cmdPath argv).1 =
        [.openNs (nsPath nsname), .setns, .setgid, .setuid, .execv cmdPath argv] := by
  unfold enterNamespaceAndExec at h ⊢
  split_ifs at h ⊢ <;> simp_all

/-- **A request reaches `execv` only past every check.** -/
theorem execv_mem_mainRequest {sys : Sys} {nsname cmd p : List Char} {args ea : List (List Char)}
    (h : Call.execv p ea ∈ (mainRequest sys nsname cmd args).1) :
    strstr nsname "/".toList = none ∧ strstr nsname "..".toList = none ∧
      getCommandPath cmd = some p ∧ ea = cmd :: args.take 30 ∧ validateArgs cmd (args.take 30) ∧
      sys.setgidOk ∧ sys.setuidOk ∧
      (mainRequest sys nsname cmd args).1 = [.stat (nsPath nsname), .openNs (nsPath nsname),
        .setns, .setgid, .setuid, .execv p ea] := by
  cases hv : (validateNamespace sys nsname).2 with
  | false =>
    rw [mainRequest, if_pos (by simp [hv])] at h
    exact absurd h (execv_not_mem_validateNamespace _ _ _ _)
  | true =>
    obtain ⟨hs, hd, -, hcalls⟩ := validateNamespace_eq_true hv
    rw [mainRequest, if_neg (by simp [hv])] at h ⊢
    cases hp : getCommandPath cmd with
    | none =>
      rw [hp] at h
      exact absurd h (execv_not_mem_validateNamespace _ _ _ _)
    | some cmdPath =>
      rw [hp] at h
      dsimp only at h ⊢
      cases ha : validateArgs cmd (args.take 30) with
      | false =>
        rw [ha, if_pos (show (!false) = true from rfl)] at h
        exact absurd h (execv_not_mem_validateNamespace _ _ _ _)
      | true =>
        rw [ha, if_neg (by decide), hcalls] at h
        rw [if_neg (by decide), hcalls]
        obtain ⟨rfl, rfl, hg, hu, he⟩ :=
          enterNamespaceAndExec_execv (List.mem_of_ne_of_mem (by simp) h)
        exact ⟨hs, hd, rfl, rfl, rfl, hg, hu, by rw [List.singleton_append, he]⟩

/-- **`execv` is reached only past every check**: the request has a namespace, a command and
arguments; the namespace name is not `--list` and has no `/` and no `..`; the command is on the
whitelist and runs from its whitelisted path, with `exec_argv` the command and at most 30
arguments, which pass `validate_args`; and the calls are `stat` of the namespace file, the entry
into the namespace, the two privilege drops, both successful, and `execv` last. -/
theorem execv_mem_main {sys : Sys} {argv : List (List Char)} {p : List Char}
    {ea : List (List Char)} (h : Call.execv p ea ∈ (main sys argv).1) :
    ∃ a₀ nsname cmd args, argv = a₀ :: nsname :: cmd :: args ∧ nsname ≠ "--list".toList ∧
      strstr nsname "/".toList = none ∧ strstr nsname "..".toList = none ∧
      getCommandPath cmd = some p ∧ ea = cmd :: args.take 30 ∧ validateArgs cmd (args.take 30) ∧
      sys.setgidOk ∧ sys.setuidOk ∧
      (main sys argv).1 = [.stat (nsPath nsname), .openNs (nsPath nsname), .setns, .setgid,
        .setuid, .execv p ea] := by
  match argv, h with
  | [], h => simp [main] at h
  | [_], h => simp [main] at h
  | [_, nsname], h =>
    simp only [main] at h
    split_ifs at h <;> simp at h
  | a₀ :: nsname :: cmd :: args, h =>
    by_cases hl : nsname = "--list".toList
    · simp only [main, if_pos hl] at h
      simp at h
    rw [main_request hl] at h ⊢
    exact ⟨a₀, nsname, cmd, args, rfl, hl, execv_mem_mainRequest h⟩

/-- **A request that passes the checks goes on to `enter_namespace_and_exec`.** -/
theorem main_of_valid {sys : Sys} {a₀ nsname cmd cmdPath : List Char} {args : List (List Char)}
    (hl : nsname ≠ "--list".toList) (hs : strstr nsname "/".toList = none)
    (hd : strstr nsname "..".toList = none) (hstat : sys.stat (nsPath nsname))
    (hc : getCommandPath cmd = some cmdPath) (ha : validateArgs cmd (args.take 30)) :
    main sys (a₀ :: nsname :: cmd :: args) =
      (.stat (nsPath nsname) :: (enterNamespaceAndExec sys nsname cmdPath (cmd :: args.take 30)).1,
        (enterNamespaceAndExec sys nsname cmdPath (cmd :: args.take 30)).2) := by
  have hv : validateNamespace sys nsname = ([.stat (nsPath nsname)], true) := by
    rw [validateNamespace, if_neg (by rw [hs, hd]; decide), hstat]
  rw [main_request hl, mainRequest, hv, if_neg (by simp), hc]
  dsimp only
  rw [if_neg (by simp [ha])]
  rfl

/-- **A signed table id passes**: `strtol` reads `-7` whole, so `ip route show table -7` is run,
although `-7` is not a numeric table id. -/
theorem main_execs_signed_table_id :
    specArgs "ip".toList ["route".toList, "show".toList, "table".toList, "-7".toList] = false ∧
      Call.execv "/usr/sbin/ip".toList
          ["ip".toList, "route".toList, "show".toList, "table".toList, "-7".toList] ∈
        (main ⟨fun _ => true, true, fun _ => true, true, true, true, true⟩
          ["netns_reader".toList, "r1".toList, "ip".toList, "route".toList, "show".toList,
            "table".toList, "-7".toList]).1 := by
  decide

end TracerouteSimulator.NetnsReader
