import ContentSync.Proofs.IntakeChecks

/-!
# What the guard remembers of a run

Deliveries come one after another, and the clock that measures time since a start never runs
backwards.  The guard then knows a signature for exactly as long as `replayTtl` after it was
accepted.  The argument has two parts.

**What one delivery does.**  `remembers_receive` compares the guard before and after a delivery, as
seen at a later time: a signature is added when the delivery is accepted, and nothing else changes.
That the guard throws out what is too old does not count, since it stays too old.

**What a run does.**  `remembers_guardAfter` turns this into a statement about the history, and
`SameMemory` says that two guards cannot be told apart from a time on.  The summary is
`answerAfter_exact`.
-/

namespace ContentSync.Webhook

/-! ## Guards at later times -/

namespace ReplayGuard

variable {g g' : ReplayGuard} {ttl time elapsed : Duration} {id : String}

/-- What was thrown out at one time would not be remembered later. -/
lemma remembers_of_refresh (hlater : time.nanos ≤ elapsed.nanos) :
    (g.refresh ttl time).Remembers ttl elapsed id ↔ g.Remembers ttl elapsed id := by
  simp only [Remembers, refresh, List.mem_filter, decide_eq_true_eq]
  constructor
  · rintro ⟨accepted, ⟨hmem, -⟩, hfresh⟩
    exact ⟨accepted, hmem, hfresh⟩
  · rintro ⟨accepted, hmem, hfresh⟩
    exact ⟨accepted, ⟨hmem, by omega⟩, hfresh⟩

lemma remembers_cons {accepted : List (String × Duration)} {new : String} :
    Remembers ⟨(new, time) :: accepted⟩ ttl elapsed id ↔
      (new = id ∧ elapsed.nanos - time.nanos < ttl.nanos) ∨
        Remembers ⟨accepted⟩ ttl elapsed id := by
  simp only [Remembers, List.mem_cons, Prod.mk.injEq]
  constructor
  · rintro ⟨_, ⟨rfl, rfl⟩ | hmem, hfresh⟩
    · exact .inl ⟨rfl, hfresh⟩
    · exact .inr ⟨_, hmem, hfresh⟩
  · rintro (⟨rfl, hfresh⟩ | ⟨accepted, hmem, hfresh⟩)
    · exact ⟨time, .inl ⟨rfl, rfl⟩, hfresh⟩
    · exact ⟨accepted, .inr hmem, hfresh⟩

/-- **Two guards that cannot be told apart** from a time on. -/
def SameMemory (ttl time : Duration) (g g' : ReplayGuard) : Prop :=
  ∀ elapsed id, time.nanos ≤ elapsed.nanos →
    (g.Remembers ttl elapsed id ↔ g'.Remembers ttl elapsed id)

lemma SameMemory.later (h : SameMemory ttl time g g') (hlater : time.nanos ≤ elapsed.nanos) :
    SameMemory ttl elapsed g g' :=
  fun e id he => h e id (hlater.trans he)

end ReplayGuard

open ReplayGuard (SameMemory)

/-! ## One delivery -/

namespace Handler

variable {h : Handler} {v : Verifier} {clock : Clock} {d : Delivery} {g g' : ReplayGuard}

/-- **What one delivery does to the guard**, as seen later: an accepted signature is added, and
nothing else changes. -/
lemma remembers_receive (hv : h.verifier = some v) (hguard : h.config.replayProtection)
    {elapsed : Duration} {id : String} (hlater : clock.elapsed.nanos ≤ elapsed.nanos) :
    (h.receive g clock d).guard.Remembers h.config.replayTtl elapsed id ↔
      g.Remembers h.config.replayTtl elapsed id ∨
        ∃ event, (h.receive g clock d).result = .ok event ∧ event.id = id ∧
          elapsed.nanos - clock.elapsed.nanos < h.config.replayTtl.nanos := by
  have hrefused : ∀ {e}, (h.receive g clock d).result = .error e →
      ¬ ∃ event, (h.receive g clock d).result = .ok event ∧ event.id = id ∧
          elapsed.nanos - clock.elapsed.nanos < h.config.replayTtl.nanos := by
    rintro e he ⟨event, hok, -⟩
    cases he.symm.trans hok
  rcases fails_or_passes v h.config h.complaint clock.now d with ⟨e, he⟩ | ⟨s, payload, hs⟩
  · obtain ⟨warnings, hreceive⟩ := receive_of_fails hv he
    rw [or_iff_left (hrefused (congrArg Receipt.result (hreceive g))), hreceive]
  · by_cases hknown : g.Remembers h.config.replayTtl clock.elapsed s.digest
    · have hreceive := receive_of_remembers hv hs hguard hknown
      rw [or_iff_left (hrefused (congrArg Receipt.result hreceive)), hreceive]
      exact ReplayGuard.remembers_of_refresh hlater
    · rw [receive_of_not_remembers hv hs hguard hknown, ReplayGuard.remembers_cons,
        ReplayGuard.remembers_of_refresh hlater, or_comm]
      refine or_congr_right ⟨fun hnew => ⟨_, rfl, hnew⟩, ?_⟩
      rintro ⟨_, hok, hid, hfresh⟩
      cases hok
      exact ⟨hid, hfresh⟩

/-- Guards that cannot be told apart give the same answer. -/
lemma receive_result_congr (hv : h.verifier = some v) (hguard : h.config.replayProtection)
    (hsame : SameMemory h.config.replayTtl clock.elapsed g g') :
    (h.receive g clock d).result = (h.receive g' clock d).result := by
  rcases fails_or_passes v h.config h.complaint clock.now d with ⟨e, he⟩ | ⟨s, payload, hs⟩
  · obtain ⟨warnings, hreceive⟩ := receive_of_fails hv he
    rw [hreceive, hreceive]
  · have hiff := hsame clock.elapsed s.digest le_rfl
    by_cases hknown : g.Remembers h.config.replayTtl clock.elapsed s.digest
    · rw [receive_of_remembers hv hs hguard hknown,
        receive_of_remembers hv hs hguard (hiff.mp hknown)]
    · rw [receive_of_not_remembers hv hs hguard hknown,
        receive_of_not_remembers hv hs hguard (mt hiff.mpr hknown)]

/-- A delivery that is refused leaves the guard's memory as it was. -/
lemma sameMemory_of_error (hv : h.verifier = some v) (hguard : h.config.replayProtection)
    {e : Error} (herror : (h.receive g clock d).result = .error e) :
    SameMemory h.config.replayTtl clock.elapsed (h.receive g clock d).guard g := by
  intro elapsed id hlater
  rw [remembers_receive hv hguard hlater, or_iff_left_iff_imp]
  rintro ⟨event, hok, -⟩
  cases herror.symm.trans hok

lemma sameMemory_receive (hv : h.verifier = some v) (hguard : h.config.replayProtection)
    (hsame : SameMemory h.config.replayTtl clock.elapsed g g') :
    SameMemory h.config.replayTtl clock.elapsed (h.receive g clock d).guard
      (h.receive g' clock d).guard := by
  intro elapsed id hlater
  rw [remembers_receive hv hguard hlater, remembers_receive hv hguard hlater,
    hsame elapsed id hlater, receive_result_congr hv hguard hsame]

end Handler

/-! ## Runs -/

/-- A delivery and the clocks when it comes. -/
structure Arrival where
  clock : Clock
  delivery : Delivery

/-- **Time does not run backwards** over a run of deliveries. -/
def Forward (run : List Arrival) : Prop :=
  run.Pairwise fun a b => a.clock.elapsed.nanos ≤ b.clock.elapsed.nanos

instance (run : List Arrival) : Decidable (Forward run) :=
  inferInstanceAs (Decidable (List.Pairwise _ _))

/-- A delivery in a run that goes forward comes after those before it and before the others. -/
lemma Forward.around {earlier later : List Arrival} {a : Arrival}
    (hforward : Forward (earlier ++ a :: later)) :
    (∀ b ∈ earlier, b.clock.elapsed.nanos ≤ a.clock.elapsed.nanos) ∧
      (∀ b ∈ later, a.clock.elapsed.nanos ≤ b.clock.elapsed.nanos) := by
  obtain ⟨-, hrest, hcross⟩ := List.pairwise_append.mp hforward
  exact ⟨fun b hb => hcross b hb a List.mem_cons_self, (List.pairwise_cons.mp hrest).1⟩

namespace Handler

/-- The guard after deliveries that come one after another. -/
def guardAfter (h : Handler) (g : ReplayGuard) (run : List Arrival) : ReplayGuard :=
  run.foldl (fun g a => (h.receive g a.clock a.delivery).guard) g

/-- **The answer to a delivery** that comes after others, with nothing accepted before these. -/
def answerAfter (h : Handler) (earlier : List Arrival) (a : Arrival) : Except Error Event :=
  (h.receive (h.guardAfter .empty earlier) a.clock a.delivery).result

/-- **A signature was accepted within the window** that ends now: one of the deliveries of a run was
accepted with it, less than `replayTtl` ago. -/
def AcceptedWithin (h : Handler) (run : List Arrival) (elapsed : Duration) (id : String) : Prop :=
  ∃ earlier a later event, run = earlier ++ a :: later ∧ h.answerAfter earlier a = .ok event ∧
    event.id = id ∧ elapsed.nanos - a.clock.elapsed.nanos < h.config.replayTtl.nanos

variable {h : Handler} {v : Verifier} {run earlier later : List Arrival} {a b : Arrival}
  {elapsed : Duration} {id : String}

lemma not_acceptedWithin_nil : ¬ h.AcceptedWithin [] elapsed id := by
  rintro ⟨earlier, a, later, -, hrun, -⟩
  simp at hrun

lemma acceptedWithin_concat :
    h.AcceptedWithin (run ++ [a]) elapsed id ↔
      h.AcceptedWithin run elapsed id ∨
        ∃ event, h.answerAfter run a = .ok event ∧ event.id = id ∧
          elapsed.nanos - a.clock.elapsed.nanos < h.config.replayTtl.nanos := by
  constructor
  · rintro ⟨earlier, b, later, event, hrun, hok, hid, hfresh⟩
    rcases List.eq_nil_or_concat later with rfl | ⟨rest, c, rfl⟩
    · obtain ⟨rfl, hlast⟩ := List.append_inj' hrun rfl
      cases hlast
      exact .inr ⟨event, hok, hid, hfresh⟩
    · rw [List.concat_eq_append, ← List.cons_append, ← List.append_assoc] at hrun
      obtain ⟨rfl, -⟩ := List.append_inj' hrun rfl
      exact .inl ⟨earlier, b, rest, event, rfl, hok, hid, hfresh⟩
  · rintro (⟨earlier, b, later, event, rfl, hok, hid, hfresh⟩ | ⟨event, hok, hid, hfresh⟩)
    · exact ⟨earlier, b, later ++ [a], event, by simp, hok, hid, hfresh⟩
    · exact ⟨run, a, [], event, rfl, hok, hid, hfresh⟩

/-- **What the guard remembers after a run** is what was accepted within the window.  The induction
takes the last delivery off the run. -/
lemma remembers_guardAfter (hv : h.verifier = some v) (hguard : h.config.replayProtection)
    (hlater : ∀ a ∈ run, a.clock.elapsed.nanos ≤ elapsed.nanos) :
    (h.guardAfter .empty run).Remembers h.config.replayTtl elapsed id ↔
      h.AcceptedWithin run elapsed id := by
  induction run using List.reverseRecOn with
  | nil =>
      refine iff_of_false ?_ not_acceptedWithin_nil
      rintro ⟨_, hmem, -⟩
      cases hmem
  | append_singleton run a ih =>
      have hrest := ih fun b hb => hlater b (List.mem_append_left _ hb)
      have hlast := hlater a (List.mem_append_right _ List.mem_cons_self)
      rw [guardAfter, List.foldl_append, ← guardAfter, acceptedWithin_concat, ← hrest]
      exact remembers_receive hv hguard hlast

/-- Guards that cannot be told apart stay so over a run. -/
lemma sameMemory_guardAfter (hv : h.verifier = some v) (hguard : h.config.replayProtection)
    {time : Duration} {g g' : ReplayGuard} (hsame : SameMemory h.config.replayTtl time g g')
    (hforward : Forward run) (hlater : ∀ a ∈ run, time.nanos ≤ a.clock.elapsed.nanos)
    (hend : ∀ a ∈ run, a.clock.elapsed.nanos ≤ elapsed.nanos) (htime : time.nanos ≤ elapsed.nanos) :
    SameMemory h.config.replayTtl elapsed (h.guardAfter g run) (h.guardAfter g' run) := by
  induction run generalizing time g g' with
  | nil => exact hsame.later htime
  | cons a rest ih =>
      obtain ⟨hfirst, hrest⟩ := List.pairwise_cons.mp hforward
      have hnow := hsame.later (hlater a List.mem_cons_self)
      exact ih (sameMemory_receive hv hguard hnow) hrest hfirst
        (fun b hb => hend b (List.mem_cons_of_mem _ hb)) (hend a List.mem_cons_self)

/-- A delivery that passes is accepted unless it was accepted before within the window. -/
lemma answerAfter_of_new (hv : h.verifier = some v) (hguard : h.config.replayProtection)
    (hbefore : ∀ b ∈ earlier, b.clock.elapsed.nanos ≤ a.clock.elapsed.nanos)
    {s : StampedSignature} {payload : Json}
    (hs : Passes v h.config a.clock.now a.delivery s payload)
    (hnew : ¬ h.AcceptedWithin earlier a.clock.elapsed s.digest) :
    h.answerAfter earlier a = .ok (.ofSignature s a.clock.now payload) :=
  congrArg Receipt.result (receive_of_not_remembers hv hs hguard
    (mt (remembers_guardAfter hv hguard hbefore).mp hnew))

/-- An accepted delivery was not accepted before within the window. -/
lemma not_acceptedWithin_of_ok (hv : h.verifier = some v) (hguard : h.config.replayProtection)
    (hbefore : ∀ b ∈ earlier, b.clock.elapsed.nanos ≤ a.clock.elapsed.nanos) {event : Event}
    (hok : h.answerAfter earlier a = .ok event) :
    ¬ h.AcceptedWithin earlier a.clock.elapsed event.id := by
  obtain ⟨s, payload, -, hnew, rfl⟩ := (receive_ok_iff hv).mp hok
  exact mt (remembers_guardAfter hv hguard hbefore).mpr (hnew hguard)

/-- Two deliveries that are accepted with one signature are at least `replayTtl` apart. -/
lemma spaced_of_ok (hv : h.verifier = some v) (hguard : h.config.replayProtection)
    {middle : List Arrival} (hforward : Forward (earlier ++ a :: middle ++ b :: later))
    {first second : Event} (hfirst : h.answerAfter earlier a = .ok first)
    (hsecond : h.answerAfter (earlier ++ a :: middle) b = .ok second)
    (hid : first.id = second.id) :
    a.clock.elapsed.nanos + h.config.replayTtl.nanos ≤ b.clock.elapsed.nanos := by
  have hbefore := hforward.around.1
  have hnew := not_acceptedWithin_of_ok hv hguard hbefore hsecond
  have horder := hbefore a (by simp)
  by_contra hclose
  exact hnew ⟨earlier, a, middle, first, rfl, hfirst, hid, by omega⟩

/-- A delivery that was refused does not change the answer to a later one. -/
lemma answerAfter_of_error (hv : h.verifier = some v) (hguard : h.config.replayProtection)
    {middle : List Arrival} (hforward : Forward (earlier ++ a :: middle ++ b :: later)) {e : Error}
    (herror : h.answerAfter earlier a = .error e) :
    h.answerAfter (earlier ++ a :: middle) b = h.answerAfter (earlier ++ middle) b := by
  obtain ⟨hend, -⟩ := hforward.around
  obtain ⟨hrun, -, -⟩ := List.pairwise_append.mp hforward
  obtain ⟨-, hlater⟩ := Forward.around hrun
  obtain ⟨-, hmiddle, -⟩ := List.pairwise_append.mp hrun
  have hsame := sameMemory_guardAfter hv hguard (sameMemory_of_error hv hguard herror)
    (List.pairwise_cons.mp hmiddle).2 hlater (fun c hc => hend c (by simp [hc]))
    (hend a (by simp))
  rw [answerAfter, answerAfter, guardAfter, guardAfter, List.foldl_append, List.foldl_cons,
    List.foldl_append, ← guardAfter, ← guardAfter]
  exact receive_result_congr hv hguard hsame

/-- **The guard remembers exactly what was accepted within its window.**  In a run of deliveries:

* One that passes all other checks is refused as a replay exactly when its signature was accepted
  less than `replayTtl` before, and is accepted otherwise.
* Two that are accepted with the same signature are at least `replayTtl` apart.
* One that is refused, whatever the reason, might as well not have come: every later answer is what
  it would be without it. -/
theorem answerAfter_exact {secret : String} (hsecret : secret ≠ "") {config : IntakeConfig}
    (hguard : config.replayProtection) {run : List Arrival} (hforward : Forward run) :
    let h := Handler.new (some secret) config
    (∀ earlier a later s payload, run = earlier ++ a :: later →
      Passes ⟨secret.toUTF8⟩ config a.clock.now a.delivery s payload →
      (h.answerAfter earlier a = .error (.replayDetected s.digest) ↔
        h.AcceptedWithin earlier a.clock.elapsed s.digest) ∧
      (¬ h.AcceptedWithin earlier a.clock.elapsed s.digest →
        h.answerAfter earlier a = .ok (.ofSignature s a.clock.now payload))) ∧
    (∀ earlier a middle b later first second, run = earlier ++ a :: middle ++ b :: later →
      h.answerAfter earlier a = .ok first → h.answerAfter (earlier ++ a :: middle) b = .ok second →
      first.id = second.id →
      a.clock.elapsed.nanos + config.replayTtl.nanos ≤ b.clock.elapsed.nanos) ∧
    (∀ earlier a middle b later e, run = earlier ++ a :: middle ++ b :: later →
      h.answerAfter earlier a = .error e →
      h.answerAfter (earlier ++ a :: middle) b = h.answerAfter (earlier ++ middle) b) := by
  intro h
  have hv := verifier_new hsecret config
  refine ⟨?_, ?_, ?_⟩
  · rintro earlier a later s payload rfl hs
    have hbefore := hforward.around.1
    have haccepted := answerAfter_of_new hv hguard hbefore hs
    refine ⟨⟨fun hreplay => ?_, fun hwithin => ?_⟩, haccepted⟩
    · by_contra hnew
      cases hreplay.symm.trans (haccepted hnew)
    · exact congrArg Receipt.result (receive_of_remembers hv hs hguard
        ((remembers_guardAfter hv hguard hbefore).mpr hwithin))
  · rintro earlier a middle b later first second rfl hfirst hsecond hid
    exact spaced_of_ok hv hguard hforward hfirst hsecond hid
  · rintro earlier a middle b later e rfl herror
    exact answerAfter_of_error hv hguard hforward herror

/-- A delivery comes again a second later and a quarter of an hour later.  It is refused once, which
does not make the memory last longer. -/
theorem answerAfter_exact_twice :
    let h := Handler.new (some "k") .default
    let s := StampedSignature.ofText ⟨"k".toUTF8⟩ "0" "master" 450000
    let again : Nat → Arrival := fun seconds =>
      ⟨⟨⟨450, 0⟩, .seconds seconds⟩, .signed "k" "0" "master" 450000⟩
    Forward [again 0, again 1, again 900] ∧
      h.answerAfter [] (again 0) = .ok (.ofSignature s ⟨450, 0⟩ (.int 0)) ∧
      h.answerAfter [again 0] (again 1) = .error (.replayDetected s.digest) ∧
      h.answerAfter [again 0, again 1] (again 900) = .ok (.ofSignature s ⟨450, 0⟩ (.int 0)) := by
  intro h s again
  have hforward : Forward [again 0, again 1, again 900] := by decide
  have hpasses : ∀ seconds, Passes ⟨"k".toUTF8⟩ .default (again seconds).clock.now
      (again seconds).delivery s (.int 0) := by
    intro seconds
    exact passes_signed "k" (by decide) (by decide) (by decide) (by decide)
      (by decide : Timely .default ⟨450, 0⟩ 450000) (by decide +kernel)
  have hguard : IntakeConfig.default.replayProtection := rfl
  obtain ⟨hpass, -, -⟩ := answerAfter_exact (by decide : "k" ≠ "") hguard hforward
  have hfirst := (hpass [] (again 0) [again 1, again 900] s (.int 0) rfl (hpasses 0)).2
    not_acceptedWithin_nil
  have hreplay := (hpass [again 0] (again 1) [again 900] s (.int 0) rfl (hpasses 1)).1.mpr
    ⟨[], again 0, [], _, rfl, hfirst, rfl, by decide⟩
  refine ⟨hforward, hfirst, hreplay, ?_⟩
  refine (hpass [again 0, again 1] (again 900) [] s (.int 0) rfl (hpasses 900)).2 ?_
  rw [← List.nil_append [again 0, again 1], List.append_cons, acceptedWithin_concat,
    acceptedWithin_concat]
  rintro ((hnil | ⟨-, -, -, hfresh⟩) | ⟨event, hok, -⟩)
  · exact not_acceptedWithin_nil hnil
  · exact absurd hfresh (by decide)
  · cases hreplay.symm.trans hok

end Handler

end ContentSync.Webhook
