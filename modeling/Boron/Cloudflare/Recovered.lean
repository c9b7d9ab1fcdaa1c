import Boron.Cloudflare.Recovery

namespace Boron.Cloudflare
open List Checks
variable {lib : Library} {provider : Provider} {zone : String} {protectedBefore : List String}

def submissions (log : List Event) : List Batch := log.filterMap fun | .submitted batch => some batch | _ => none

def reads (log : List Event) : List (List Row) := log.filterMap fun | .read records => some records | _ => none

/-- The calls of rounds that all went well. In each of them a read agrees with
what is known, the batch is submitted, and the next read agrees with the result
expected of it, which is then what is known. -/
inductive Confirmed (lib : Library) (zone : String) (protectedBefore : List String) :
    List Row → List Batch → List Event → List Row → Prop
  | done (current : List Row) : Confirmed lib zone protectedBefore current [] [] current
  | round {current after rawFresh rawActual final : List Row} {batch : Batch} {fresh actual : List Row × List Row}
      {done total : Nat} {rest : List Batch} {events : List Event}
      (before : partition lib zone rawFresh true = .ok fresh) (unchanged : Agrees lib zone fresh current protectedBefore)
      (expected : expectedAfter current batch = .ok after) (observed : partition lib zone rawActual true = .ok actual)
      (agreed : Agrees lib zone actual after protectedBefore)
      (later : Confirmed lib zone protectedBefore actual.1 rest events final) :
      Confirmed lib zone protectedBefore current (batch :: rest)
        ([.bound, .read rawFresh, .submitted batch, .bound, .read rawActual, .confirmed done total] ++ events) final

theorem Confirmed.submissions {current final : List Row} {batches : List Batch} {events : List Event}
    (confirmed : Confirmed lib zone protectedBefore current batches events final) : submissions events = batches := by
  induction confirmed with
  | done => rfl
  | round _ _ _ _ _ _ ih => exact congrArg (cons _) ih

/-- The last read of the rounds is what is known at their end. -/
theorem Confirmed.lastRead {current final : List Row} {batches : List Batch} {events : List Event}
    (confirmed : Confirmed lib zone protectedBefore current batches events final) {raw : List Row} {guarded : List Row}
    (known : partition lib zone raw true = .ok (current, guarded)) (guards : protectedState lib guarded = protectedBefore) :
    ∃ records guarded, (raw :: reads events).getLast? = some records ∧ partition lib zone records true = .ok (final, guarded) ∧
      protectedState lib guarded = protectedBefore := by
  induction confirmed generalizing raw guarded with
  | done => exact ⟨raw, guarded, rfl, known, guards⟩
  | @round current after rawFresh rawActual final batch fresh actual done total rest events _ _ _ observed agreed _ ih =>
    obtain ⟨records, guarded', last, split, kept⟩ := ih observed agreed.2
    refine ⟨records, guarded', ?_, split, kept⟩
    exact last

theorem compare_ok {read : List Row × List Row} {rows : List Row} {reason : String}
    (checked : compare lib zone read rows protectedBefore reason = .ok ()) : Agrees lib zone read rows protectedBefore := by
  simp only [compare, bind_eq_ok, raiseIf_eq_ok, not_or, not_not] at checked
  obtain ⟨found, there, wanted, here, rfl, kept⟩ := checked
  exact ⟨⟨found, there, here⟩, kept⟩

section
variable {log log' : List Event}

theorem validateBinding_run (result : Except String Unit) (ran : (validateBinding provider).run log = (result, log')) :
    log' = log ++ [.bound] := (Prod.mk.inj ran).2.symm

theorem readZone_ok {read : List Row × List Row} (ran : (readZone lib provider zone).run log = (.ok read, log')) :
    ∃ raw, log' = log ++ [.read raw] ∧ partition lib zone raw true = .ok read := by
  obtain ⟨raw, mid, got, ran⟩ := Sys.bind_eq_ok.mp ran
  obtain ⟨split, rfl⟩ := Prod.mk.inj ran
  unfold exportRecords at got
  dsimp only at got
  cases answer : provider.records log with
  | error reason =>
    rw [answer] at got
    cases got
  | ok records =>
    rw [answer] at got
    cases got
    exact ⟨_, rfl, split⟩

theorem submitBatch_run {batch : Batch} {result : Except String Unit}
    (ran : (submitBatch provider batch).run log = (result, log')) : log' = log ++ [.submitted batch] := by
  unfold submitBatch at ran
  dsimp only at ran
  cases ended : provider.submit log batch <;> rw [ended] at ran <;> exact (Prod.mk.inj ran).2.symm

theorem applyBatch_ok {done total : Nat} {current actual : List Row} {batch : Batch}
    (ran : (applyBatch lib provider zone protectedBefore done total current batch).run log = (.ok actual, log')) :
    ∃ rawFresh rawActual after fresh read, log' = log ++ [.bound, .read rawFresh, .submitted batch, .bound,
        .read rawActual, .confirmed (done + 1) total] ∧ partition lib zone rawFresh true = .ok fresh ∧
      Agrees lib zone fresh current protectedBefore ∧ expectedAfter current batch = .ok after ∧
      partition lib zone rawActual true = .ok read ∧ Agrees lib zone read after protectedBefore ∧ actual = read.1 := by
  obtain ⟨_, _, bound, ran⟩ := Sys.bind_eq_ok.mp ran
  obtain ⟨fresh, _, first, ran⟩ := Sys.bind_eq_ok.mp ran
  obtain ⟨_, unchanged, ran⟩ := Sys.ofExcept_bind_ok ran
  obtain ⟨found, _, ran⟩ := Sys.ofExcept_bind_ok ran
  obtain ⟨known, _, ran⟩ := Sys.ofExcept_bind_ok ran
  obtain ⟨_, _, ran⟩ := Sys.ofExcept_bind_ok ran
  obtain ⟨after, expected, ran⟩ := Sys.ofExcept_bind_ok ran
  obtain ⟨_, _, submitted, ran⟩ := Sys.bind_eq_ok.mp ran
  obtain ⟨_, _, again, ran⟩ := Sys.bind_eq_ok.mp ran
  obtain ⟨read, _, second, ran⟩ := Sys.bind_eq_ok.mp ran
  obtain ⟨_, agreed, ran⟩ := Sys.ofExcept_bind_ok ran
  obtain ⟨_, _, reported, ran⟩ := Sys.bind_eq_ok.mp ran
  obtain ⟨result, rfl⟩ := Prod.mk.inj ran
  cases result
  obtain rfl := validateBinding_run _ bound
  obtain ⟨rawFresh, rfl, before⟩ := readZone_ok first
  obtain rfl := submitBatch_run submitted
  obtain rfl := validateBinding_run _ again
  obtain ⟨rawActual, rfl, observed⟩ := readZone_ok second
  obtain rfl := (Prod.mk.inj reported).2
  refine ⟨rawFresh, rawActual, after, fresh, read, ?_, before, compare_ok unchanged, expected, observed,
    compare_ok agreed, rfl⟩
  simp only [append_assoc, cons_append, nil_append]

theorem applyBatches_ok {total : Nat} {batches : List Batch} {done : Nat} {current final : List Row}
    (ran : (applyBatches lib provider zone protectedBefore total done current batches).run log = (.ok final, log')) :
    ∃ events, log' = log ++ events ∧ Confirmed lib zone protectedBefore current batches events final := by
  induction batches generalizing done current log with
  | nil =>
    cases ran
    exact ⟨[], (append_nil _).symm, .done _⟩
  | cons batch rest ih =>
    obtain ⟨actual, mid, round, ran⟩ := Sys.bind_eq_ok.mp ran
    obtain ⟨events, rfl, later⟩ := ih ran
    obtain ⟨rawFresh, rawActual, after, fresh, read, rfl, before, unchanged, expected, observed, agreed, rfl⟩ :=
      applyBatch_ok round
    exact ⟨_, append_assoc .., .round before unchanged expected observed agreed later⟩

end

/-- The calls go on from `first`, and those since have submitted `sent`. -/
def Since (first : List Event) (sent : List Batch) (log : List Event) : Prop :=
  ∃ more, log = first ++ more ∧ submissions more = sent

section
variable {first : List Event} {sent : List Batch}

theorem Since.more {log : List Event} (since : Since first sent log) {event : Event} (silent : submissions [event] = []) :
    Since first sent (log ++ [event]) := by
  obtain ⟨more, rfl, same⟩ := since
  refine ⟨more ++ [event], append_assoc .., ?_⟩
  rw [submissions, filterMap_append]
  unfold submissions at silent same
  rw [silent, same, append_nil]

theorem Since.submits {log : List Event} (since : Since first sent log) (batch : Batch) :
    Since first (sent ++ [batch]) (log ++ [.submitted batch]) := by
  obtain ⟨more, rfl, same⟩ := since
  refine ⟨more ++ [.submitted batch], append_assoc .., ?_⟩
  rw [submissions, filterMap_append]
  unfold submissions at same
  rw [same]
  rfl

theorem validateBinding_since : Sys.Triple (Since first sent) (validateBinding provider) (fun _ => Since first sent)
    (Since first sent) :=
  fun _ since => ⟨fun _ _ ran => (Prod.mk.inj ran).2 ▸ since.more rfl, fun _ _ ran => (Prod.mk.inj ran).2 ▸ since.more rfl⟩

theorem reportBatch_since {done total : Nat} : Sys.Triple (Since first sent) (reportBatch provider done total)
    (fun _ => Since first sent) (Since first sent) :=
  fun _ since => ⟨fun _ _ ran => (Prod.mk.inj ran).2 ▸ since.more rfl, fun _ _ ran => (Prod.mk.inj ran).2 ▸ since.more rfl⟩

theorem ofExcept_since {α : Type} {r : Except String α} : Sys.Triple (Since first sent) (Sys.ofExcept r)
    (fun _ => Since first sent) (Since first sent) :=
  Sys.Triple.ofExcept (fun _ _ since _ => since) fun _ since => since

theorem readZone_since : Sys.Triple (Since first sent) (readZone lib provider zone) (fun _ => Since first sent)
    (Since first sent) := by
  refine Sys.Triple.bind (Q := fun _ => Since first sent) (fun log since => ?_) fun _ => ofExcept_since
  unfold exportRecords
  dsimp only
  cases provider.records log with
  | ok records =>
    refine ⟨?_, fun _ _ ran => (nomatch ran)⟩
    rintro _ _ ⟨⟩
    exact since.more rfl
  | error reason =>
    refine ⟨fun _ _ ran => (nomatch ran), ?_⟩
    rintro _ _ ⟨⟩
    exact since

theorem submitBatch_since {batch : Batch} : Sys.Triple (Since first sent) (submitBatch provider batch)
    (fun _ => Since first (sent ++ [batch])) (Since first (sent ++ [batch])) :=
  fun _ since => ⟨fun _ _ ran => submitBatch_run ran ▸ since.submits batch, fun _ _ ran => submitBatch_run ran ▸ since.submits batch⟩

theorem applyBatch_since {done total : Nat} {current : List Row} {batch : Batch} :
    Sys.Triple (Since first sent) (applyBatch lib provider zone protectedBefore done total current batch)
      (fun _ => Since first (sent ++ [batch])) fun log => Since first sent log ∨ Since first (sent ++ [batch]) log := by
  have early {α : Type} {p : Recover α} (quiet : Sys.Triple (Since first sent) p (fun _ => Since first sent) (Since first sent)) :
      Sys.Triple (Since first sent) p (fun _ => Since first sent)
        fun log => Since first sent log ∨ Since first (sent ++ [batch]) log :=
    quiet.weaken (fun _ since => since) (fun _ _ since => since) fun _ since => .inl since
  have late {α : Type} {p : Recover α}
      (quiet : Sys.Triple (Since first (sent ++ [batch])) p (fun _ => Since first (sent ++ [batch])) (Since first (sent ++ [batch]))) :
      Sys.Triple (Since first (sent ++ [batch])) p (fun _ => Since first (sent ++ [batch]))
        fun log => Since first sent log ∨ Since first (sent ++ [batch]) log :=
    quiet.weaken (fun _ since => since) (fun _ _ since => since) fun _ since => .inr since
  have submitted : Sys.Triple (Since first sent) (submitBatch provider batch) (fun _ => Since first (sent ++ [batch]))
      fun log => Since first sent log ∨ Since first (sent ++ [batch]) log :=
    submitBatch_since.weaken (fun _ since => since) (fun _ _ since => since) fun _ since => .inr since
  refine (early validateBinding_since).bind fun _ => (early readZone_since).bind fun fresh =>
    (early ofExcept_since).bind fun _ => (early ofExcept_since).bind fun _ => (early ofExcept_since).bind fun _ =>
    (early ofExcept_since).bind fun _ => (early ofExcept_since).bind fun _ => submitted.bind fun _ =>
    (late validateBinding_since).bind fun _ => (late readZone_since).bind fun read => (late ofExcept_since).bind fun _ =>
    (late reportBatch_since).bind fun _ => Sys.Triple.pure fun _ since => since

/-- The rounds submit the batches in order, each of them once, as far as they go. -/
theorem applyBatches_since {total : Nat} {batches : List Batch} {done : Nat} {current : List Row} :
    Sys.Triple (Since first sent) (applyBatches lib provider zone protectedBefore total done current batches)
      (fun _ => Since first (sent ++ batches)) fun log => ∃ some_, some_ <+: batches ∧ Since first (sent ++ some_) log := by
  induction batches generalizing sent done current with
  | nil =>
    refine Sys.Triple.pure fun log since => ?_
    rwa [append_nil]
  | cons batch rest ih =>
    have round : Sys.Triple (Since first sent) (applyBatch lib provider zone protectedBefore done total current batch)
        (fun _ => Since first (sent ++ [batch]))
        fun log => ∃ some_, some_ <+: batch :: rest ∧ Since first (sent ++ some_) log := by
      refine applyBatch_since.weaken (fun _ since => since) (fun _ _ since => since) fun log since => ?_
      rcases since with since | since
      · exact ⟨[], nil_prefix, by rwa [append_nil]⟩
      · exact ⟨[batch], prefix_iff_eq_append.mpr rfl, since⟩
    refine round.bind fun actual => ih.weaken (fun _ since => since) (fun _ log since => ?_) fun log failed => ?_
    · rwa [append_assoc] at since
    · obtain ⟨some_, part, since⟩ := failed
      refine ⟨batch :: some_, cons_prefix_cons.mpr ⟨rfl, part⟩, ?_⟩
      rwa [append_assoc] at since

end

theorem ofExcept_bind_cases {α β : Type} {r : Except String α} {f : α → Recover β} {log log' : List Event}
    {result : Except String β} (ran : (Sys.ofExcept r >>= f).run log = (result, log')) :
    log' = log ∧ (∃ reason, result = .error reason) ∨ ∃ a, r = .ok a ∧ (f a).run log = (result, log') := by
  cases r with
  | error reason =>
    cases ran
    exact .inl ⟨rfl, reason, rfl⟩
  | ok a => exact .inr ⟨a, rfl, ran⟩

/-- What recovery has read and planned before its first batch. -/
structure Prepared (lib : Library) (zone : String) (desired raw current protected_ selected : List Row)
    (changes : Changes) : Prop where
  split : partition lib zone raw true = .ok (current, protected_)
  valid : validate lib zone desired = .ok selected
  planned : plan lib zone current selected = .ok changes

/-- The end of `apply`, after the rounds. -/
def finish (lib : Library) (provider : Provider) (zone : String) (selected : List Row) (changes : Changes)
    (final : List Row) : Recover Changes := do
  validateBinding provider
  let last ← Sys.ofExcept (state lib zone final)
  let chosen ← Sys.ofExcept (state lib zone selected)
  Sys.ofExcept (raiseIf (last ≠ chosen) "Cloudflare recovery final verification failed")
  return changes

/-- Recovery fails without a batch, or it gets to its rounds. -/
theorem applyRecovery_cases {desired expectedBefore : List Row} {result : Except String Changes} {log : List Event}
    (ran : (applyRecovery lib provider zone desired expectedBefore).run [] = (result, log)) :
    submissions log = [] ∧ (∃ reason, result = .error reason) ∨
      ∃ raw current protected_ selected changes, Prepared lib zone desired raw current protected_ selected changes ∧
        (do let final ← applyBatches lib provider zone (protectedState lib protected_) changes.batches.length 0 current
              changes.batches
            finish lib provider zone selected changes final : Recover Changes).run [.bound, .read raw] = (result, log) := by
  unfold applyRecovery at ran
  rw [Sys.run_bind] at ran
  cases bound : (validateBinding provider).run [] with
  | mk ended mid =>
    obtain rfl := validateBinding_run _ bound
    rw [bound] at ran
    cases ended with
    | error reason =>
      cases ran
      exact .inl ⟨rfl, reason, rfl⟩
    | ok done =>
      dsimp only at ran
      rw [Sys.run_bind] at ran
      cases read : (readZone lib provider zone).run ([] ++ [.bound]) with
      | mk ended mid =>
        rw [read] at ran
        cases ended with
        | error reason =>
          cases ran
          have quiet : Sys.Triple (Since [] []) (readZone lib provider zone) (fun _ => Since [] []) (Since [] []) :=
            readZone_since
          obtain ⟨more, rfl, same⟩ := (quiet _ ⟨[.bound], rfl, rfl⟩).2 reason _ read
          exact .inl ⟨same, reason, rfl⟩
        | ok parts =>
          obtain ⟨raw, rfl, split⟩ := readZone_ok read
          have silent : submissions ([] ++ [Event.bound] ++ [.read raw]) = [] := rfl
          obtain ⟨rfl, failed⟩ | ⟨found, _, ran⟩ := ofExcept_bind_cases ran
          · exact .inl ⟨silent, failed⟩
          obtain ⟨rfl, failed⟩ | ⟨wanted, _, ran⟩ := ofExcept_bind_cases ran
          · exact .inl ⟨silent, failed⟩
          obtain ⟨rfl, failed⟩ | ⟨_, _, ran⟩ := ofExcept_bind_cases ran
          · exact .inl ⟨silent, failed⟩
          obtain ⟨rfl, failed⟩ | ⟨selected, valid, ran⟩ := ofExcept_bind_cases ran
          · exact .inl ⟨silent, failed⟩
          obtain ⟨rfl, failed⟩ | ⟨origin, _, ran⟩ := ofExcept_bind_cases ran
          · exact .inl ⟨silent, failed⟩
          obtain ⟨rfl, failed⟩ | ⟨owners, _, ran⟩ := ofExcept_bind_cases ran
          · exact .inl ⟨silent, failed⟩
          obtain ⟨rfl, failed⟩ | ⟨overlapping, _, ran⟩ := ofExcept_bind_cases ran
          · exact .inl ⟨silent, failed⟩
          obtain ⟨rfl, failed⟩ | ⟨_, _, ran⟩ := ofExcept_bind_cases ran
          · exact .inl ⟨silent, failed⟩
          obtain ⟨rfl, failed⟩ | ⟨changes, planned, ran⟩ := ofExcept_bind_cases ran
          · exact .inl ⟨silent, failed⟩
          exact .inr ⟨raw, parts.1, parts.2, selected, changes, ⟨split, valid, planned⟩, ran⟩

theorem finish_since {first : List Event} {sent : List Batch} {selected final : List Row} {changes : Changes} :
    Sys.Triple (Since first sent) (finish lib provider zone selected changes final) (fun _ => Since first sent)
      (Since first sent) :=
  validateBinding_since.bind fun _ => ofExcept_since.bind fun _ => ofExcept_since.bind fun _ =>
    ofExcept_since.bind fun _ => Sys.Triple.pure fun _ since => since

theorem finish_ok {selected final : List Row} {changes changes' : Changes} {log log' : List Event}
    (ran : (finish lib provider zone selected changes final).run log = (.ok changes', log')) :
    log' = log ++ [.bound] ∧ changes' = changes ∧
      ∃ texts, state lib zone final = .ok texts ∧ state lib zone selected = .ok texts := by
  obtain ⟨_, mid, bound, ran⟩ := Sys.bind_eq_ok.mp ran
  obtain ⟨last, there, ran⟩ := Sys.ofExcept_bind_ok ran
  obtain ⟨chosen, here, ran⟩ := Sys.ofExcept_bind_ok ran
  obtain ⟨_, same, ran⟩ := Sys.ofExcept_bind_ok ran
  obtain rfl := validateBinding_run _ bound
  cases ran
  have equal : last = chosen := not_not.mp (raiseIf_eq_ok.mp same)
  exact ⟨rfl, rfl, last, there, equal ▸ here⟩

def alphaId : String := "00000000000000000000000000000001"

def alphaRecord : Row :=
  [("name", .string "www.alpha.test"), ("type", .string "A"), ("ttl", .number 300), ("proxied", .bool false),
    ("id", .string alphaId), ("content", .string "192.0.2.1"), ("comment", .string ""), ("tags", .array []),
    ("settings", .object [])]

def plainLibrary : Library :=
  { normalize := fun _ row current => .ok (if current then row else Row.without row "id")
    labels := fun text => some ((text.toList.splitOn '.').map String.ofList)
    dumps := fun _ => "\x7b\"comment\":\"\",\"content\":\"192.0.2.1\",\"name\":\"www.alpha.test\",\"proxied\":false," ++
      "\"settings\":\x7b\x7d,\"tags\":[],\"ttl\":300,\"type\":\"A\"\x7d" }

def brittleProvider : Provider :=
  { binding := fun _ => .ok (), onBatch := fun _ => .ok (), submit := fun _ _ => .cloudflareError
    records := fun log => .ok (if (submissions log).isEmpty then [alphaRecord] else []) }

end Boron.Cloudflare
