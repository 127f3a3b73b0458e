import RemoteDesktop.Frame.Queue.History

/-!
# The latest frame wins

A queue shows what its history says of it (`Records`): pending is the latest frame, and the delivered frames
with the pending one behind them are some of the accepted frames, in their order. Every accepted frame is
delivered, displaced, given up, or still pending, so the counts add up. A stopped queue holds nothing, and no
action on it changes that.

Main statement: `latest_wins`.
-/

namespace RemoteDesktop.FrameQueue

variable {α : Type} {h : List (Event α)} {e : Event α} {q : FrameQueue α} {frame : α}

/-! ### One more event -/

@[simp] theorem hasStop_append (h more : List (Event α)) : hasStop (h ++ more) = (hasStop h || hasStop more) :=
  List.any_append

theorem hasStop_cons (e : Event α) (h : List (Event α)) : hasStop (e :: h) = (e.isStop || hasStop h) :=
  List.any_cons

theorem beforeStop_cons (e : Event α) (h : List (Event α)) :
    beforeStop (e :: h) = if e.isStop then [] else e :: beforeStop h := by
  rw [beforeStop, List.takeWhile_cons]
  cases e.isStop <;> rfl

theorem beforeStop_append (h more : List (Event α)) :
    beforeStop (h ++ more) = if hasStop h then beforeStop h else beforeStop h ++ beforeStop more := by
  induction h with
  | nil => rfl
  | cons e h ih =>
    rw [List.cons_append, beforeStop_cons, beforeStop_cons, hasStop_cons, ih]
    cases e.isStop <;> cases hasStop h <;> rfl

/-- What is read off the events before a stop grows by what one more event shows. -/
theorem filterMap_beforeStop (show? : Event α → Option α) (hstop : ∀ w, show? (.stopped w) = none)
    (h : List (Event α)) (e : Event α) :
    (beforeStop (h ++ [e])).filterMap show? =
      (beforeStop h).filterMap show? ++ (if hasStop h then none else show? e).toList := by
  rw [beforeStop_append]
  cases hasStop h with
  | true => simp
  | false => cases e <;> simp [beforeStop, Event.isStop, hstop, List.filterMap_cons] <;> split <;> simp_all

theorem accepted_append (h : List (Event α)) (e : Event α) :
    accepted (h ++ [e]) = accepted h ++ (if hasStop h then none else e.offered?).toList :=
  filterMap_beforeStop _ (fun _ => rfl) h e

theorem displaced_append (h : List (Event α)) (e : Event α) :
    displaced (h ++ [e]) = displaced h ++ (if hasStop h then none else e.back?).toList :=
  filterMap_beforeStop _ (fun _ => rfl) h e

theorem delivered_append (h : List (Event α)) (e : Event α) :
    delivered (h ++ [e]) = delivered h ++ e.delivered?.toList := by
  rw [delivered, List.filterMap_append]
  cases hd : e.delivered? <;> simp [delivered, hd]

theorem withdrawn_append (h : List (Event α)) (e : Event α) :
    withdrawn (h ++ [e]) = withdrawn h ++ e.withdrawn?.toList := by
  rw [withdrawn, List.filterMap_append]
  cases hw : e.withdrawn? <;> simp [withdrawn, hw]

/-- A frame that was just accepted is the latest. -/
theorem latest_of_pushed (hstop : hasStop h = false) (frame : α) (back : Option α) :
    Latest (h ++ [.pushed frame back]) frame :=
  ⟨h, back, [], rfl, hstop, fun _ hmem => absurd hmem List.not_mem_nil⟩

/-- After one more event the latest frame is the one that was just accepted, or the one before if the event
has spared it. -/
theorem latest_append_iff :
    Latest (h ++ [e]) frame ↔
      (hasStop h = false ∧ e.offered? = some frame) ∨ (e.spares = true ∧ Latest h frame) := by
  constructor
  · rintro ⟨earlier, back, later, heq, hstop, hspares⟩
    rcases List.eq_nil_or_concat later with rfl | ⟨later', last, rfl⟩
    · obtain ⟨rfl, hlast⟩ := List.append_inj' heq rfl
      obtain rfl := List.singleton_inj.1 hlast
      exact .inl ⟨hstop, rfl⟩
    · rw [List.concat_eq_append, ← List.cons_append, ← List.append_assoc] at heq
      obtain ⟨rfl, hlast⟩ := List.append_inj' heq rfl
      obtain rfl := List.singleton_inj.1 hlast
      refine .inr ⟨hspares e (by simp), earlier, back, later', rfl, hstop, fun e' hmem => hspares e' ?_⟩
      simp [hmem]
  · rintro (⟨hstop, hoffered⟩ | ⟨hspares, earlier, back, later, rfl, hstop, hlater⟩)
    · cases e with
      | pushed frame' back =>
        obtain rfl := Option.some_inj.1 hoffered
        exact latest_of_pushed hstop _ _
      | looked | reset | stopped | recycled | tookRecycled => cases hoffered
    · refine ⟨earlier, back, later ++ [e], by simp, hstop, fun e' hmem => ?_⟩
      rcases List.mem_append.1 hmem with hmem | hmem
      · exact hlater e' hmem
      · exact List.mem_singleton.1 hmem ▸ hspares

/-- There is no latest frame after a stop. -/
theorem Latest.not_hasStop (hlatest : Latest h frame) : hasStop h = false := by
  obtain ⟨earlier, back, later, rfl, hstop, hlater⟩ := hlatest
  have hspared : hasStop later = false := by
    rw [hasStop, List.any_eq_false]
    intro e hmem hstop
    have := hlater e hmem
    cases e <;> simp_all [Event.spares, Event.isStop]
  rw [hasStop_append, hstop, Bool.false_or]
  exact hspared

theorem length_accepted_le (h : List (Event α)) : (accepted h).length ≤ h.length :=
  Nat.le_trans (List.length_filterMap_le _ _) (List.takeWhile_sublist _).length_le

theorem length_history (q : FrameQueue α) (actions : List (Action α)) :
    (history q actions).length = actions.length := by
  induction actions generalizing q with
  | nil => rfl
  | cons a actions ih => rw [history, List.length_cons, List.length_cons, ih]

/-! ### What a queue shows of its history -/

/-- The queue is as it must be after these events. -/
structure Records (h : List (Event α)) (q : FrameQueue α) : Prop where
  pending : ∀ frame, q.pending = some frame ↔ Latest h frame
  stopped : q.stopped = hasStop h
  /-- A stopped queue has no frame to give away. -/
  unused : q.stopped = true → q.recycled = none
  /-- Who takes the pending frame takes it behind all delivered ones. -/
  ordered : (delivered h ++ q.pending.toList).Sublist (accepted h)
  pushed : q.stats.pushed = (accepted h).length
  delivered : q.stats.delivered = (delivered h).length
  dropped : q.stats.dropped = (displaced h).length
  /-- Every accepted frame is accounted for. -/
  balanced : (accepted h).length =
    (FrameQueue.delivered h).length + (displaced h).length + q.pending.toList.length + (withdrawn h).length

theorem records_initial : Records ([] : List (Event α)) {} where
  pending frame := by simp [Latest]
  stopped := rfl
  unused _ := rfl
  ordered := List.Sublist.slnil
  pushed := rfl
  delivered := rfl
  dropped := rfl
  balanced := rfl

namespace Records

/-- Nothing is pending in a stopped queue. -/
theorem pending_eq_none (hr : Records h q) (hstop : q.stopped = true) : q.pending = none := by
  cases hpending : q.pending with
  | none => rfl
  | some frame =>
    have := ((hr.pending frame).1 hpending).not_hasStop
    rw [← hr.stopped, hstop] at this
    cases this

/-- An event that shows nothing of accepted frames changes nothing that counts. -/
theorem quiet (hr : Records h q) {q' : FrameQueue α} (hspares : e.spares = true) (hoffered : e.offered? = none)
    (hdelivered : e.delivered? = none) (hpending : q'.pending = q.pending) (hstopped : q'.stopped = q.stopped)
    (hstats : q'.stats = q.stats) (hunused : q'.stopped = true → q'.recycled = none) : Records (h ++ [e]) q' := by
  have hback : e.back? = none := by cases e <;> first | rfl | cases hoffered
  have hwithdrawn : e.withdrawn? = none := by cases e <;> first | rfl | cases hspares
  have hstop : e.isStop = false := by cases e <;> first | rfl | cases hspares
  have haccepted : accepted (h ++ [e]) = accepted h := by simp [accepted_append, hoffered]
  have hdisplaced : displaced (h ++ [e]) = displaced h := by simp [displaced_append, hback]
  have hdelivered : FrameQueue.delivered (h ++ [e]) = FrameQueue.delivered h := by simp [delivered_append, hdelivered]
  have hwithdrawn : withdrawn (h ++ [e]) = withdrawn h := by simp [withdrawn_append, hwithdrawn]
  refine ⟨fun frame => ?_, ?_, hunused, ?_, ?_, ?_, ?_, ?_⟩
  · rw [hpending, hr.pending, latest_append_iff, hoffered]
    simp [hspares]
  · rw [hstopped, hr.stopped, hasStop_append]
    simp [hasStop, hstop]
  · rw [hdelivered, haccepted, hpending]
    exact hr.ordered
  · rw [hstats, haccepted, hr.pushed]
  · rw [hstats, hdelivered, hr.delivered]
  · rw [hstats, hdisplaced, hr.dropped]
  · rw [haccepted, hdelivered, hdisplaced, hwithdrawn, hpending, hr.balanced]

/-- Nothing can be done with a stopped queue: it stays as it is, and whoever offers a frame gets it back. -/
theorem act_of_stopped (hr : Records h q) (hstop : q.stopped = true) (a : Action α) :
    (q.act a).2 = q ∧ (q.act a).1.delivered? = none ∧ (q.act a).1.withdrawn? = none ∧
      (q.act a).1.reused? = none ∧ ∀ frame back, (q.act a).1 = .pushed frame back → back = some frame := by
  have hpending := hr.pending_eq_none hstop
  have hrecycled := hr.unused hstop
  obtain ⟨pending, recycled, stopped, stats⟩ := q
  subst hpending hrecycled hstop
  cases a with
  | push frame =>
    refine ⟨rfl, rfl, rfl, rfl, fun frame' back heq => ?_⟩
    cases heq
    rfl
  | look | reset | stop | recycle | takeRecycled => exact ⟨rfl, rfl, rfl, rfl, fun _ _ heq => nomatch heq⟩

/-- An action on a stopped queue changes nothing that counts. -/
theorem act_stopped (hr : Records h q) (hstop : q.stopped = true) (a : Action α) :
    Records (h ++ [(q.act a).1]) (q.act a).2 := by
  obtain ⟨hq, hdelivered, hwithdrawn, -, -⟩ := hr.act_of_stopped hstop a
  have hh : hasStop h = true := hr.stopped ▸ hstop
  have haccepted : accepted (h ++ [(q.act a).1]) = accepted h := by simp [accepted_append, hh]
  have hdisplaced : displaced (h ++ [(q.act a).1]) = displaced h := by simp [displaced_append, hh]
  have hdelivered : FrameQueue.delivered (h ++ [(q.act a).1]) = FrameQueue.delivered h := by
    simp [delivered_append, hdelivered]
  have hwithdrawn : withdrawn (h ++ [(q.act a).1]) = withdrawn h := by simp [withdrawn_append, hwithdrawn]
  rw [hq]
  refine ⟨fun frame => ?_, ?_, hr.unused, ?_, ?_, ?_, ?_, ?_⟩
  · rw [hr.pending_eq_none hstop]
    refine iff_of_false (fun heq => nomatch heq) fun hlatest => ?_
    have := hlatest.not_hasStop
    rw [hasStop_append, hh] at this
    cases this
  · rw [hasStop_append, hh, hstop]
    rfl
  · rw [hdelivered, haccepted]
    exact hr.ordered
  · rw [haccepted, hr.pushed]
  · rw [hdelivered, hr.delivered]
  · rw [hdisplaced, hr.dropped]
  · rw [haccepted, hdelivered, hdisplaced, hwithdrawn, hr.balanced]

/-- The frame that was offered is pending, in the place of the one before. -/
theorem push (hr : Records h q) (hstop : q.stopped = false) (frame : α) :
    Records (h ++ [(q.act (.push frame)).1]) (q.act (.push frame)).2 := by
  have hh : hasStop h = false := hr.stopped ▸ hstop
  have hpush : q.act (.push frame) = (.pushed frame q.pending, (q.push frame).2) := by
    simp [act, FrameQueue.push, hstop]
  rw [hpush]
  have haccepted : accepted (h ++ [.pushed frame q.pending]) = accepted h ++ [frame] := by
    simp [accepted_append, hh, Event.offered?]
  have hdisplaced : displaced (h ++ [.pushed frame q.pending]) = displaced h ++ q.pending.toList := by
    simp [displaced_append, hh, Event.back?]
  have hdelivered : FrameQueue.delivered (h ++ [.pushed frame q.pending]) = FrameQueue.delivered h := by
    simp [delivered_append, Event.delivered?]
  have hwithdrawn : withdrawn (h ++ [.pushed frame q.pending]) = withdrawn h := by
    simp [withdrawn_append, Event.withdrawn?]
  simp only [FrameQueue.push, hstop, Bool.false_eq_true, if_false]
  refine ⟨fun frame' => ?_, ?_, (fun h => nomatch h), ?_, ?_, ?_, ?_, ?_⟩
  · rw [latest_append_iff]
    simp [hh, Event.offered?, Event.spares]
  · rw [hasStop_append, hh]
    rfl
  · rw [hdelivered, haccepted]
    exact ((List.sublist_append_left _ _).trans hr.ordered).append (List.Sublist.refl _)
  · rw [haccepted, List.length_append, ← hr.pushed]
    rfl
  · rw [hdelivered]
    exact hr.delivered
  · rw [hdisplaced, List.length_append, ← hr.dropped]
    cases q.pending <;> rfl
  · rw [haccepted, hdelivered, hdisplaced, hwithdrawn, List.length_append, List.length_append, hr.balanced]
    simp only [Option.toList_some, List.length_singleton]
    omega

/-- The pending frame leaves the queue, to a consumer or for good. -/
theorem release (hr : Records h q) {q' : FrameQueue α} (hspares : e.spares = false) (hoffered : e.offered? = none)
    (hreleased : (e.delivered?.toList ++ e.withdrawn?.toList) = q.pending.toList)
    (hpending : q'.pending = none) (hstopped : q'.stopped = (q.stopped || e.isStop))
    (hpushed : q'.stats.pushed = q.stats.pushed) (hdropped : q'.stats.dropped = q.stats.dropped)
    (hcount : q'.stats.delivered = q.stats.delivered + e.delivered?.toList.length)
    (hunused : q'.stopped = true → q'.recycled = none) : Records (h ++ [e]) q' := by
  have hback : e.back? = none := by cases e <;> first | rfl | cases hoffered
  have haccepted : accepted (h ++ [e]) = accepted h := by simp [accepted_append, hoffered]
  have hdisplaced : displaced (h ++ [e]) = displaced h := by simp [displaced_append, hback]
  have hlength := congrArg List.length hreleased
  rw [List.length_append] at hlength
  refine ⟨fun frame => ?_, ?_, hunused, ?_, ?_, ?_, ?_, ?_⟩
  · rw [hpending, latest_append_iff, hoffered, hspares]
    simp
  · rw [hstopped, hr.stopped, hasStop_append]
    simp [hasStop]
  · rw [hpending, Option.toList_none, List.append_nil, delivered_append, haccepted]
    refine List.Sublist.trans ?_ hr.ordered
    rw [← hreleased, ← List.append_assoc]
    exact List.sublist_append_left _ _
  · rw [hpushed, haccepted, hr.pushed]
  · rw [hcount, delivered_append, List.length_append, hr.delivered]
  · rw [hdropped, hdisplaced, hr.dropped]
  · rw [haccepted, hdisplaced, delivered_append, withdrawn_append, hpending, List.length_append, List.length_append,
      hr.balanced, ← hlength, Option.toList_none, List.length_nil]
    omega

/-- Whatever is done to a queue is recorded. -/
theorem act (hr : Records h q) (a : Action α) : Records (h ++ [(q.act a).1]) (q.act a).2 := by
  cases hstop : q.stopped with
  | true => exact hr.act_stopped hstop a
  | false =>
    cases a with
    | push frame => exact hr.push hstop frame
    | look timeUp =>
      cases hpending : q.pending with
      | none =>
        have hlook : q.act (.look timeUp) = (.looked (if timeUp then some .noData else none), q) := by
          simp [FrameQueue.act, look, poll, hstop, hpending]
        rw [hlook]
        cases timeUp <;> exact hr.quiet rfl rfl rfl rfl rfl rfl hr.unused
      | some frame =>
        have hlook : q.act (.look timeUp) = (.looked (some (.frame frame)),
            { q with pending := none, stats := { q.stats with delivered := q.stats.delivered + 1 } }) := by
          simp [FrameQueue.act, look, poll, hstop, hpending]
        rw [hlook]
        exact hr.release rfl rfl (by rw [hpending]; rfl) rfl (Bool.or_false _).symm rfl rfl rfl hr.unused
    | reset =>
      refine hr.release rfl rfl rfl rfl (Bool.or_false _).symm rfl rfl rfl fun h => ?_
      rw [show (FrameQueue.act q .reset).2.stopped = q.stopped from rfl, hstop] at h
      cases h
    | stop => exact hr.release rfl rfl rfl rfl (Bool.or_true _).symm rfl rfl rfl fun _ => rfl
    | recycle frame =>
      refine hr.quiet rfl rfl rfl ?_ ?_ ?_ fun h => ?_ <;> simp_all [FrameQueue.act, FrameQueue.recycle]
    | takeRecycled => exact hr.quiet rfl rfl rfl rfl rfl rfl fun _ => rfl

theorem run (hr : Records h q) (actions : List (Action α)) :
    Records (h ++ history q actions) (FrameQueue.run q actions) := by
  induction actions generalizing h q with
  | nil => simpa [history, FrameQueue.run] using hr
  | cons a actions ih =>
    have := ih (hr.act a)
    rwa [List.append_assoc, List.singleton_append] at this

/-- A stopped queue stays as it is. -/
theorem run_of_stopped (hr : Records h q) (hstop : q.stopped = true) (actions : List (Action α)) :
    FrameQueue.run q actions = q ∧ ∀ e ∈ history q actions, e.delivered? = none ∧ e.reused? = none ∧
      ∀ frame back, e = .pushed frame back → back = some frame := by
  induction actions with
  | nil => exact ⟨rfl, fun e hmem => absurd hmem List.not_mem_nil⟩
  | cons a actions ih =>
    obtain ⟨hq, hdelivered, -, hreused, hback⟩ := hr.act_of_stopped hstop a
    rw [FrameQueue.run, history, hq]
    refine ⟨ih.1, fun e hmem => ?_⟩
    rcases List.mem_cons.1 hmem with rfl | hmem
    · exact ⟨hdelivered, hreused, hback⟩
    · exact ih.2 e hmem

end Records

/-- **The latest frame wins.** Whatever producer and consumers do, in whatever order, to a queue that was empty:
the frames that consumers got are some of the accepted frames, each once and in their order; a consumer that
looks gets the latest frame, if it gets one, and is told that there is none only if none is pending; a push
gives back the frame that was pending, or its own once the queue has been stopped; each accepted frame is
delivered, displaced, pending or given up, and no count exceeds the number of actions. Once the queue has been
stopped, nobody gets a frame from it but whoever offers one, and the counts stay as they are. -/
theorem latest_wins (actions : List (Action α)) :
    let q : FrameQueue α := run {} actions
    let h := history {} actions
    (delivered h).Sublist (accepted h) ∧
      (∀ timeUp frame, (q.look timeUp).1 = some (.frame frame) → Latest h frame) ∧
      (∀ timeUp, (q.look timeUp).1 = some .noData → q.pending = none) ∧
      (∀ frame, q.pending = some frame ↔ Latest h frame) ∧
      (∀ frame, hasStop h = false → (q.push frame).1 = q.pending) ∧
      (q.stats.pushed = (accepted h).length ∧ q.stats.delivered = (delivered h).length ∧
        q.stats.dropped = (displaced h).length) ∧
      q.stats.pushed =
        q.stats.delivered + q.stats.dropped + (if q.pending.isSome then 1 else 0) + (withdrawn h).length ∧
      q.stats.pushed ≤ actions.length ∧
      (hasStop h = true → ∀ more, (run q more).stats = q.stats ∧
        ∀ e ∈ history q more, e.delivered? = none ∧ e.reused? = none ∧
          ∀ frame back, e = .pushed frame back → back = some frame) := by
  intro q h
  have hr : Records h q := records_initial.run actions
  refine ⟨(List.sublist_append_left _ _).trans hr.ordered, fun timeUp frame hlook => ?_, fun timeUp hlook => ?_,
    hr.pending, fun frame hstop => ?_, ⟨hr.pushed, hr.delivered, hr.dropped⟩, ?_, ?_,
    fun hstop more => ?_⟩
  · rw [← hr.pending]
    rw [look, poll] at hlook
    cases hstop : q.stopped <;> cases hpending : q.pending <;> cases timeUp <;> simp_all
  · rw [look, poll] at hlook
    cases hstop : q.stopped <;> cases hpending : q.pending <;> cases timeUp <;> simp_all
  · rw [push, hr.stopped, hstop]
    rfl
  · rw [hr.pushed, hr.balanced, hr.delivered, hr.dropped]
    cases q.pending <;> rfl
  · rw [hr.pushed, ← length_history {} actions]
    exact length_accepted_le h
  · obtain ⟨hq, hevents⟩ := hr.run_of_stopped (hr.stopped.trans hstop) more
    exact ⟨congrArg stats hq, hevents⟩

/-- The second frame displaces the first, and a consumer gets it; the third is given up. -/
example : history ({} : FrameQueue Nat) [.push 1, .push 2, .look false, .look false, .push 3, .reset, .look true] =
    [.pushed 1 none, .pushed 2 (some 1), .looked (some (.frame 2)), .looked none, .pushed 3 none, .reset (some 3),
      .looked (some .noData)] := rfl

end RemoteDesktop.FrameQueue
