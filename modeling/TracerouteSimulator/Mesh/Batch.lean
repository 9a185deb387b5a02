import TracerouteSimulator.Mesh.Setup

/-! # The batch script buffer, byte by byte

`create_batch_context` maps `buffer_capacity` bytes of a fresh shared memory object and copies
the shebang into them with `strcpy`; `batch_add_command` builds `full_cmd` with `snprintf` and, when
the line and its terminator fit, copies it to `script_buffer + buffer_size` with `memcpy` and writes
`'\0'` after it. The abstract `Batch` of `Mesh.Setup` sees only `script_buffer[0 .. buffer_size)`;
this module models the mapping itself.

* **`storeBytes`** — `memcpy` into the mapping, partial: `none` is a store past its end; where it
  lands it is `overwrite` of `CString`.
* **`Mapped.createBatchContext`**, **`Mapped.batchAddCommand`** — the two functions on the mapping,
  for every content the mapping starts with.
* **`Scripted ctx text`** — the buffer holds `text`, its terminator follows, and the size stays
  below the capacity. Every call keeps it (`batchAddCommand_of_full`, `batchAddCommand_of_fits`),
  so a whole run keeps it (`runBatch_scripted`).
* **`BatchContext.toBatch`** — the abstraction to `Batch`; the byte-level functions refine the
  abstract ones (`createBatchContext_refines`, `batchAddCommand_refines`).

The `NULL` checks of `ctx` and `command` and the `fprintf` to `stderr` are left out: the contexts
are created ones and the commands are texts. -/

namespace TracerouteSimulator.Mesh

/-! ## (1) Stores into the mapping -/

/-- **`memcpy(buf + off, src, n)`** with `n` the length of `src`: `none` when the copy would
leave the mapping. -/
def storeBytes (buf : List Char) (off : Nat) (src : List Char) : Option (List Char) :=
  if off + src.length ≤ buf.length then some (overwrite buf off src) else none

theorem storeBytes_of_le {buf src : List Char} {off : Nat} (h : off + src.length ≤ buf.length) :
    storeBytes buf off src = some (overwrite buf off src) :=
  if_pos h

/-! ## (2) `create_batch_context` and `batch_add_command` -/

/-- **`batch_context_t`** with its mapping. -/
structure BatchContext where
  /-- The mapped shared memory, `script_buffer[0 .. buffer_capacity)`. -/
  scriptBuffer : List Char
  /-- `buffer_size`. -/
  bufferSize : Nat
  /-- `buffer_capacity`. -/
  bufferCapacity : Nat
  deriving DecidableEq, Repr

/-- The shebang `create_batch_context` starts every script with. -/
def batchHeader : List Char := "#!/bin/bash\nset -e\n".toList

theorem batchHeader_length : batchHeader.length = 19 := rfl

/-- **`full_cmd`**: `snprintf(full_cmd, 8192, "ip netns exec %s %s\n", namespace, command)`, or
`"%s\n"` for a `NULL` namespace. -/
def fullCmd : Option (List Char) → List Char → List Char
  | some ns, command => batchLine ns command
  | none, command => (command ++ ['\n']).take 8191

namespace Mapped

/-- **`create_batch_context(initial_size)`** once `shm_open`, `ftruncate` and `mmap` succeed, with
`mapping` the bytes `mmap` gives; `none` is a `strcpy` of the shebang past the mapping. -/
def createBatchContext (initialSize : Nat) (mapping : List Char) : Option BatchContext :=
  let capacity := if initialSize = 0 then 1024 * 1024 else initialSize
  (storeBytes mapping 0 (batchHeader ++ ['\x00'])).map fun buf => ⟨buf, batchHeader.length, capacity⟩

/-- **`batch_add_command(ctx, namespace, command)`**: `-1` when the line and its terminator do
not fit, else the line is copied after the script and terminated. `none` is a store past the
mapping. -/
def batchAddCommand (ctx : BatchContext) (ns : Option (List Char)) (command : List Char) :
    Option (BatchContext × Int) :=
  let full := fullCmd ns command
  if ctx.bufferCapacity < ctx.bufferSize + full.length + 1 then some (ctx, -1)
  else
    (storeBytes ctx.scriptBuffer ctx.bufferSize full).bind fun buf =>
      (storeBytes buf (ctx.bufferSize + full.length) ['\x00']).map fun buf =>
        (⟨buf, ctx.bufferSize + full.length, ctx.bufferCapacity⟩, 0)

/-- A sequence of `batch_add_command` calls, in order: the context after the last one and the
value each returned; `none` once a store leaves the mapping. -/
def runBatch (ctx : BatchContext) :
    List (Option (List Char) × List Char) → Option (BatchContext × List Int)
  | [] => some (ctx, [])
  | (ns, command) :: calls =>
    (batchAddCommand ctx ns command).bind fun (ctx', r) =>
      (runBatch ctx' calls).map fun (ctx'', rs) => (ctx'', r :: rs)

end Mapped

/-! ## (3) The buffer invariant -/

/-- **The buffer holds `text`**: `script_buffer[0 .. buffer_size)` is `text`, a `'\0'` follows it,
and the size stays below the capacity of the mapping. -/
structure Scripted (ctx : BatchContext) (text : List Char) : Prop where
  mapped : ctx.scriptBuffer.length = ctx.bufferCapacity
  contents : ctx.scriptBuffer.take ctx.bufferSize = text
  terminated : ctx.scriptBuffer[ctx.bufferSize]? = some '\x00'
  room : ctx.bufferSize < ctx.bufferCapacity

theorem Scripted.size_eq {ctx : BatchContext} {text : List Char} (h : Scripted ctx text) :
    ctx.bufferSize = text.length := by
  rw [← h.contents, List.length_take, Nat.min_eq_left (by have := h.room; have := h.mapped; omega)]

/-- The context `batch_add_command` leaves once its stores have landed. -/
def BatchContext.append (ctx : BatchContext) (full : List Char) : BatchContext :=
  ⟨overwrite (overwrite ctx.scriptBuffer ctx.bufferSize full) (ctx.bufferSize + full.length) ['\x00'],
    ctx.bufferSize + full.length, ctx.bufferCapacity⟩

theorem Scripted.append {ctx : BatchContext} {text full : List Char} (h : Scripted ctx text)
    (hfit : text.length + full.length + 1 ≤ ctx.bufferCapacity) :
    Scripted (ctx.append full) (text ++ full) := by
  have hs := h.size_eq
  have h₁ : ctx.bufferSize + full.length ≤ ctx.scriptBuffer.length := by rw [h.mapped]; omega
  have h₂ : ctx.bufferSize + full.length + 1 ≤
      (overwrite ctx.scriptBuffer ctx.bufferSize full).length := by
    rw [length_overwrite h₁, h.mapped]; omega
  refine ⟨?_, ?_, getElem?_overwrite_single h₂,
    show ctx.bufferSize + full.length < ctx.bufferCapacity by omega⟩
  · dsimp only [BatchContext.append]
    rw [length_overwrite h₂, length_overwrite h₁, h.mapped]
  · dsimp only [BatchContext.append]
    rw [take_overwrite_of_le (le_refl _) (by omega), take_overwrite_self (by omega), h.contents]

/-- **A call that does not fit** returns `-1` and leaves the whole context as it was. -/
theorem batchAddCommand_of_full {ctx : BatchContext} {text : List Char} {ns : Option (List Char)}
    {command : List Char} (h : Scripted ctx text)
    (hfull : ctx.bufferCapacity < text.length + (fullCmd ns command).length + 1) :
    Mapped.batchAddCommand ctx ns command = some (ctx, -1) := by
  rw [Mapped.batchAddCommand, if_pos (by rw [h.size_eq]; exact hfull)]

/-- **A call that fits** appends its line and returns `0`. -/
theorem batchAddCommand_of_fits {ctx : BatchContext} {text : List Char} {ns : Option (List Char)}
    {command : List Char} (h : Scripted ctx text)
    (hfit : text.length + (fullCmd ns command).length + 1 ≤ ctx.bufferCapacity) :
    Mapped.batchAddCommand ctx ns command = some (ctx.append (fullCmd ns command), 0) := by
  have hs := h.size_eq
  have h₁ : ctx.bufferSize + (fullCmd ns command).length ≤ ctx.scriptBuffer.length := by
    rw [h.mapped]; omega
  have h₂ : ctx.bufferSize + (fullCmd ns command).length + 1 ≤
      (overwrite ctx.scriptBuffer ctx.bufferSize (fullCmd ns command)).length := by
    rw [length_overwrite h₁, h.mapped]; omega
  rw [Mapped.batchAddCommand, if_neg (by omega), storeBytes_of_le h₁, Option.some_bind,
    storeBytes_of_le h₂]
  rfl

/-! ## (4) Runs of calls -/

/-- **The line a call adds**, as the callers read it: `ip netns exec <ns> <cmd>` or, without a
namespace, `<cmd>`, ended by a newline. -/
def commandLine : Option (List Char) → List Char → List Char
  | some ns, command => "ip netns exec ".toList ++ ns ++ ' ' :: command ++ ['\n']
  | none, command => command ++ ['\n']

/-- What every caller passes: a command shorter than `1024` characters and a namespace, when
there is one, shorter than `64`. -/
def CallFits : Option (List Char) × List Char → Prop
  | (ns, command) => command.length < 1024 ∧ ∀ n ∈ ns, n.length < 64

instance : DecidablePred CallFits := fun _ => inferInstanceAs (Decidable (_ ∧ _))

/-- Such a call's `full_cmd` is its whole line: `snprintf` cuts nothing. -/
theorem fullCmd_of_fits {ns : Option (List Char)} {command : List Char}
    (h : CallFits (ns, command)) : fullCmd ns command = commandLine ns command := by
  obtain ⟨hc, hns⟩ := h
  cases ns with
  | none => exact List.take_of_length_le (by simp; omega)
  | some ns => exact batchLine_eq (by have := hns ns rfl; omega)

/-- **The script a run should leave**, with each call's value: from `text` in a buffer of
`capacity` bytes, a call appends its line and returns `0` when the line and its terminator fit, and
returns `-1` and appends nothing otherwise. -/
def expectedScript (capacity : Nat) (text : List Char) :
    List (Option (List Char) × List Char) → List Char × List Int
  | [] => (text, [])
  | (ns, command) :: calls =>
    if capacity < text.length + (commandLine ns command).length + 1 then
      let rest := expectedScript capacity text calls
      (rest.1, -1 :: rest.2)
    else
      let rest := expectedScript capacity (text ++ commandLine ns command) calls
      (rest.1, 0 :: rest.2)

theorem runBatch_cons_of_eq {ctx ctx₁ : BatchContext} {ns : Option (List Char)}
    {command : List Char} {r : Int} {calls : List (Option (List Char) × List Char)}
    (h : Mapped.batchAddCommand ctx ns command = some (ctx₁, r)) :
    Mapped.runBatch ctx ((ns, command) :: calls) =
      (Mapped.runBatch ctx₁ calls).map fun p => (p.1, r :: p.2) := by
  rw [Mapped.runBatch, h, Option.some_bind]

/-- **Every run keeps the invariant**: from a buffer holding `text`, a run of calls that fit
returns the values `expectedScript` gives and leaves the text it gives, in the same mapping. -/
theorem runBatch_scripted {ctx : BatchContext} {text : List Char} (h : Scripted ctx text)
    (calls : List (Option (List Char) × List Char)) (hcalls : ∀ c ∈ calls, CallFits c) :
    ∃ ctx', Mapped.runBatch ctx calls =
        some (ctx', (expectedScript ctx.bufferCapacity text calls).2) ∧
      Scripted ctx' (expectedScript ctx.bufferCapacity text calls).1 ∧
      ctx'.bufferCapacity = ctx.bufferCapacity := by
  induction calls generalizing ctx text with
  | nil => exact ⟨ctx, rfl, h, rfl⟩
  | cons c calls ih =>
    obtain ⟨ns, command⟩ := c
    have hc := fullCmd_of_fits (hcalls _ (List.mem_cons_self _ _))
    have hrest : ∀ c ∈ calls, CallFits c := fun c hc => hcalls c (List.mem_cons_of_mem _ hc)
    by_cases hfull : ctx.bufferCapacity < text.length + (commandLine ns command).length + 1
    · obtain ⟨ctx', hrun, hs, hcap⟩ := ih h hrest
      refine ⟨ctx', ?_, by simpa only [expectedScript, if_pos hfull] using hs, hcap⟩
      rw [runBatch_cons_of_eq (batchAddCommand_of_full h (by rwa [hc])), hrun]
      simp only [expectedScript, if_pos hfull, Option.map_some']
    · have hfit : text.length + (fullCmd ns command).length + 1 ≤ ctx.bufferCapacity := by
        rw [hc]; omega
      obtain ⟨ctx', hrun, hs, hcap⟩ := ih (h.append hfit) hrest
      refine ⟨ctx', ?_, by simpa only [expectedScript, if_neg hfull, hc, BatchContext.append] using hs,
        hcap⟩
      rw [runBatch_cons_of_eq (batchAddCommand_of_fits h hfit), hrun]
      simp only [expectedScript, if_neg hfull, hc, BatchContext.append, Option.map_some']

/-- The buffer `strcpy` leaves: `text` and its terminator at the start of the mapping. -/
theorem scripted_strcpy {mapping text : List Char} (h : text.length < mapping.length) :
    Scripted ⟨overwrite mapping 0 (text ++ ['\x00']), text.length, mapping.length⟩ text := by
  have hlen : 0 + (text ++ ['\x00']).length ≤ mapping.length := by simp; omega
  have hbuf : overwrite mapping 0 (text ++ ['\x00']) =
      text ++ '\x00' :: mapping.drop (text.length + 1) := by
    simp [overwrite]
  refine ⟨length_overwrite hlen, ?_, ?_, h⟩ <;> dsimp only <;> rw [hbuf]
  · exact List.take_left' rfl
  · rw [List.getElem?_append_right (le_refl _), Nat.sub_self, List.getElem?_cons_zero]

/-- **`create_batch_context`** on a mapping of at least `20` bytes holds the shebang alone. -/
theorem createBatchContext_scripted {initialSize : Nat} {mapping : List Char}
    (hsize : 20 ≤ (createBatchContext initialSize).capacity)
    (hmap : mapping.length = (createBatchContext initialSize).capacity) :
    Mapped.createBatchContext initialSize mapping =
        some ⟨overwrite mapping 0 (batchHeader ++ ['\x00']), batchHeader.length,
          (createBatchContext initialSize).capacity⟩ ∧
      Scripted ⟨overwrite mapping 0 (batchHeader ++ ['\x00']), batchHeader.length,
          (createBatchContext initialSize).capacity⟩ batchHeader := by
  refine ⟨?_, hmap ▸ scripted_strcpy (by rw [batchHeader_length]; omega)⟩
  rw [Mapped.createBatchContext, storeBytes_of_le (by simp [batchHeader_length]; omega)]
  rfl

/-- **The batch script after every run of calls.** A context created on `initialSize ≥ 20` mapped
bytes, whatever they held, and any calls within the callers' bounds: after the calls the buffer
holds the shebang and then the line of each call that returned `0`, in call order, with its
terminator, below the capacity. A call returns `-1` exactly when its line and terminator do not
fit, and then leaves the context as it was. -/
theorem batchAddCommand_run_script {initialSize : Nat} {mapping : List Char}
    (hsize : 20 ≤ initialSize) (hmap : mapping.length = initialSize) :
    ∃ ctx, Mapped.createBatchContext initialSize mapping = some ctx ∧
      ∀ calls, (∀ c ∈ calls, CallFits c) →
        ∃ ctx', Mapped.runBatch ctx calls =
            some (ctx', (expectedScript initialSize batchHeader calls).2) ∧
          Scripted ctx' (expectedScript initialSize batchHeader calls).1 ∧
          ctx'.bufferCapacity = initialSize ∧
          ∀ ns command, CallFits (ns, command) →
            initialSize < (expectedScript initialSize batchHeader calls).1.length +
              (commandLine ns command).length + 1 →
            Mapped.batchAddCommand ctx' ns command = some (ctx', -1) := by
  have hcap : (createBatchContext initialSize).capacity = initialSize := if_neg (by omega)
  obtain ⟨hcreate, hs⟩ := createBatchContext_scripted (hcap ▸ hsize) (hcap ▸ hmap)
  rw [hcap] at hcreate hs
  refine ⟨_, hcreate, fun calls hcalls => ?_⟩
  obtain ⟨ctx', hrun, hs', hcap'⟩ := runBatch_scripted hs calls hcalls
  exact ⟨ctx', hrun, hs', hcap', fun ns command hc hfull =>
    batchAddCommand_of_full hs' (by rw [hcap', fullCmd_of_fits hc]; exact hfull)⟩

theorem batchAddCommand_run_script_4096 :
    20 ≤ 4096 ∧ (List.replicate 4096 '\x00').length = 4096 ∧
    ∃ ctx, Mapped.createBatchContext 4096 (List.replicate 4096 '\x00') = some ctx ∧
      ∀ calls, (∀ c ∈ calls, CallFits c) →
        ∃ ctx', Mapped.runBatch ctx calls =
            some (ctx', (expectedScript 4096 batchHeader calls).2) ∧
          Scripted ctx' (expectedScript 4096 batchHeader calls).1 ∧
          ctx'.bufferCapacity = 4096 ∧
          ∀ ns command, CallFits (ns, command) →
            4096 < (expectedScript 4096 batchHeader calls).1.length +
              (commandLine ns command).length + 1 →
            Mapped.batchAddCommand ctx' ns command = some (ctx', -1) :=
  ⟨by decide, List.length_replicate _ _, batchAddCommand_run_script (by decide) (List.length_replicate _ _)⟩

/-- A `40`-byte buffer has no room for `ip netns exec r1 ip -V`, and room for `ls`. -/
example : ((Mapped.createBatchContext 40 (List.replicate 40 '\x00')).bind fun ctx =>
      Mapped.runBatch ctx [(some "r1".toList, "ip -V".toList), (none, "ls".toList)]).map
        (fun p => (p.1.scriptBuffer.take p.1.bufferSize, p.2)) =
      some ("#!/bin/bash\nset -e\nls\n".toList, [-1, 0]) := by
  decide

/-! ## (5) The abstract buffer -/

/-- What the `Batch` of the mesh setup sees of a context: `script_buffer[0 .. buffer_size)` and
the capacity. -/
def BatchContext.toBatch (ctx : BatchContext) : Batch :=
  ⟨ctx.scriptBuffer.take ctx.bufferSize, ctx.bufferCapacity⟩

theorem Scripted.toBatch_eq {ctx : BatchContext} {text : List Char} (h : Scripted ctx text) :
    ctx.toBatch = ⟨text, ctx.bufferCapacity⟩ := by
  rw [BatchContext.toBatch, h.contents]

/-- **`create_batch_context` refines `createBatchContext`.** -/
theorem createBatchContext_refines {initialSize : Nat} {mapping : List Char}
    (hsize : 20 ≤ (createBatchContext initialSize).capacity)
    (hmap : mapping.length = (createBatchContext initialSize).capacity) :
    (Mapped.createBatchContext initialSize mapping).map BatchContext.toBatch =
      some (createBatchContext initialSize) := by
  obtain ⟨hcreate, hs⟩ := createBatchContext_scripted hsize hmap
  rw [hcreate, Option.map_some', hs.toBatch_eq]
  rfl

/-- **`batch_add_command` refines `batchAddCommand`** on every buffer that holds a text: the same
value, and the abstract buffer of the result. -/
theorem batchAddCommand_refines {ctx : BatchContext} {text : List Char} (h : Scripted ctx text)
    (ns command : List Char) :
    (Mapped.batchAddCommand ctx (some ns) command).map (fun p => (p.1.toBatch, p.2)) =
      some (batchAddCommand ctx.toBatch ns command) := by
  have hs := h.size_eq
  rw [h.toBatch_eq, batchAddCommand]
  by_cases hfull : ctx.bufferCapacity < text.length + (batchLine ns command).length + 1
  · rw [@batchAddCommand_of_full _ _ (some ns) _ h hfull, if_pos hfull, Option.map_some', h.toBatch_eq]
  · rw [@batchAddCommand_of_fits _ _ (some ns) _ h (by simp only [fullCmd]; omega), if_neg hfull, Option.map_some',
      (h.append (by simp only [fullCmd]; omega)).toBatch_eq]
    rfl

end TracerouteSimulator.Mesh
