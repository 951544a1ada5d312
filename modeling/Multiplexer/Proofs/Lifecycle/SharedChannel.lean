import Multiplexer.Lifecycle.Channel

/-!
# A channel that many share

Whoever can report the end of a connection may let others report it too, and may leave.
The reader asks, waits, gives up, asks again or goes away. A call takes the reports out
one by one, and others may report or leave before it takes the next. However all this
comes in between each other, the first report is told once and the latch holds back
every other.
-/

namespace Multiplexer

namespace Channel

/-- What a call does without a break: it takes out one report. If there was one before, it has
been told nothing yet and goes on. -/
def receive (c : Channel) : Reading × Channel :=
  match c.queue with
  | [] => (if c.reporters = 0 then .ended else .nothingYet, c)
  | d :: rest =>
    match c.latch.trip with
    | (true, latch) => (.report d, { c with queue := rest, latch })
    | (false, latch) => (.nothingYet, { c with queue := rest, latch })

variable {c : Channel} {d : Drop} {rest : List Drop}

/-- Without a report, a call is told the end once nobody is left, and waits before. -/
theorem receive_of_empty (h : c.queue = []) :
    c.receive = (if c.reporters = 0 then .ended else .nothingYet, c) := by
  rw [receive, h]

/-- The first report is told, and trips the latch. -/
theorem receive_of_armed (h : c.queue = d :: rest) (harmed : c.fired = false) :
    c.receive = (.report d, { c with queue := rest, latch := ⟨true⟩ }) := by
  obtain ⟨queue, ⟨tripped⟩, reporters, read⟩ := c
  obtain rfl : tripped = false := harmed
  obtain rfl : queue = d :: rest := h
  rfl

/-- Behind a tripped latch a report is taken out and not told. -/
theorem receive_of_fired (h : c.queue = d :: rest) (hfired : c.fired = true) :
    c.receive = (.nothingYet, { c with queue := rest }) := by
  obtain ⟨queue, ⟨tripped⟩, reporters, read⟩ := c
  obtain rfl : tripped = true := hfired
  obtain rfl : queue = d :: rest := h
  rfl

theorem next_of_empty (h : c.queue = []) : c.next = c.receive := by
  rw [next, receive, h]

theorem next_of_armed (h : c.queue = d :: rest) (harmed : c.fired = false) :
    c.next = c.receive := by
  rw [receive_of_armed h harmed]
  obtain ⟨queue, ⟨tripped⟩, reporters, read⟩ := c
  obtain rfl : tripped = false := harmed
  obtain rfl : queue = d :: rest := h
  rfl

/-- Once the latch is tripped, an undisturbed call takes out all that waits and tells nothing of it.
-/
theorem next_of_fired (hfired : c.fired = true) :
    c.next = (if c.reporters = 0 then .ended else .nothingYet, { c with queue := [] }) := by
  obtain ⟨queue, ⟨tripped⟩, reporters, read⟩ := c
  obtain rfl : tripped = true := hfired
  cases queue <;> rfl

end Channel

/-- A channel, those who report into it and what its reader has been told. -/
structure SharedChannel where
  channel : Channel := {}
  /-- Those who can report, by number. -/
  reporters : List Nat := [0]
  /-- The number of the next of them. -/
  counter : Nat := 1
  /-- Whether a call waits to be told something. -/
  asking : Bool := false
  /-- What calls were told, the first call first. The end is `none`. -/
  answers : List (Option Drop) := []
  deriving DecidableEq, Repr

namespace SharedChannel

/-- What can happen next. Nothing happens where someone acts who has left, or where nobody asks. -/
inductive Event where
  /-- Someone lets another one report too. -/
  | share (r : Nat)
  | publish (r : Nat) (d : Drop)
  | leave (r : Nat)
  | ask
  /-- The call takes out one report. -/
  | take
  /-- The call is given up. -/
  | giveUp
  /-- The reader goes away. -/
  | close
  deriving DecidableEq, Repr

def settle (w : SharedChannel) : Reading × Channel → SharedChannel
  | (.report d, channel) => { w with channel, asking := false, answers := w.answers ++ [some d] }
  | (.ended, channel) => { w with channel, asking := false, answers := w.answers ++ [none] }
  | (.nothingYet, channel) => { w with channel }

def step (w : SharedChannel) : Event → SharedChannel
  | .share r =>
    if r ∈ w.reporters then { w with
      channel := w.channel.addReporter
      reporters := w.reporters ++ [w.counter]
      counter := w.counter + 1 }
    else w
  | .publish r d => if r ∈ w.reporters then { w with channel := w.channel.publish d } else w
  | .leave r =>
    if r ∈ w.reporters then
      { w with channel := w.channel.dropReporter, reporters := w.reporters.erase r }
    else w
  | .ask => if w.channel.read then { w with asking := true } else w
  | .take => if w.asking then w.settle w.channel.receive else w
  | .giveUp => { w with asking := false }
  | .close => { w with channel := w.channel.dropReader, asking := false }

def run (w : SharedChannel) (es : List Event) : SharedChannel := es.foldl step w

def report? (w : SharedChannel) : Event → Option Drop
  | .publish r d => if r ∈ w.reporters then some d else none
  | .share _ | .leave _ | .ask | .take | .giveUp | .close => none

/-- The report that a call takes out in an event. -/
def taken? (w : SharedChannel) : Event → Option Drop
  | .take => if w.asking then w.channel.queue.head? else none
  | .share _ | .publish _ _ | .leave _ | .ask | .giveUp | .close => none

def reported : SharedChannel → List Event → List Drop
  | _, [] => []
  | w, e :: es => (w.report? e).toList ++ (w.step e).reported es

def takenOut : SharedChannel → List Event → List Drop
  | _, [] => []
  | w, e :: es => (w.taken? e).toList ++ (w.step e).takenOut es

structure Tracks (reports taken : List Drop) (w : SharedChannel) : Prop where
  order : taken <+: reports
  queue : w.channel.read = true → taken ++ w.channel.queue = reports
  fired : w.channel.fired = !taken.isEmpty
  answers : ∃ n, w.answers = (taken.head?.map some).toList ++ List.replicate n none
  ended : none ∈ w.answers → w.reporters = [] ∧ taken = reports
  count : w.channel.reporters = w.reporters.length
  reading : w.asking = true → w.channel.read = true

variable {w : SharedChannel} {reports taken : List Drop}

/-- Nobody has been told the end while someone can still report. -/
theorem Tracks.not_ended (h : Tracks reports taken w) {r : Nat} (hr : r ∈ w.reporters) :
    none ∉ w.answers := by
  intro hended
  rw [(h.ended hended).1] at hr
  exact List.not_mem_nil hr

/-- A report goes to the end of the queue. -/
theorem Tracks.publish (h : Tracks reports taken w) {r : Nat} (hr : r ∈ w.reporters) (d : Drop) :
    Tracks (reports ++ [d]) taken { w with channel := w.channel.publish d } := by
  have horder : taken <+: reports ++ [d] := h.order.trans (List.prefix_append reports [d])
  have hended : none ∉ w.answers := h.not_ended hr
  unfold Channel.publish
  split
  · rename_i hread
    exact { h with
      order := horder
      queue := fun _ => by rw [← h.queue hread, List.append_assoc]
      ended := fun hnone => absurd hnone hended }
  · rename_i hread
    exact { h with
      order := horder
      queue := fun hread' => absurd hread' hread
      ended := fun hnone => absurd hnone hended }

/-- Nobody has been told the end while a report waits. -/
theorem Tracks.not_ended_of_queue (h : Tracks reports taken w) (hread : w.channel.read = true)
    {d : Drop} {rest : List Drop} (hqueue : w.channel.queue = d :: rest) : none ∉ w.answers := by
  intro hended
  have hall := h.queue hread
  rw [(h.ended hended).2, hqueue] at hall
  simp at hall

/-- The latch is tripped exactly when a report was taken out. -/
theorem Tracks.fired_iff (h : Tracks reports taken w) :
    w.channel.fired = true ↔ taken ≠ [] := by
  simp [h.fired]

/-- With no report and nobody left a call is told the end. -/
theorem Tracks.ends (h : Tracks reports taken w) (hread : w.channel.read = true)
    (hqueue : w.channel.queue = []) (hnobody : w.channel.reporters = 0) :
    Tracks reports taken (w.settle (.ended, w.channel)) := by
  obtain ⟨n, hanswers⟩ := h.answers
  have hall := h.queue hread
  rw [hqueue, List.append_nil] at hall
  rw [h.count, List.length_eq_zero_iff] at hnobody
  exact { h with
    answers := ⟨n + 1, by
      simp only [settle]
      rw [hanswers, List.append_assoc, List.replicate_succ']⟩
    ended := fun _ => ⟨hnobody, hall⟩
    reading := nofun }

/-- The first report is told. -/
theorem Tracks.first (h : Tracks reports taken w) (hread : w.channel.read = true) {d : Drop}
    {rest : List Drop} (hqueue : w.channel.queue = d :: rest) (harmed : w.channel.fired = false) :
    Tracks reports (taken ++ [d])
      (w.settle (.report d, { w.channel with queue := rest, latch := ⟨true⟩ })) := by
  have hnone := h.not_ended_of_queue hread hqueue
  have hall := h.queue hread
  rw [hqueue, List.append_cons] at hall
  obtain rfl : taken = [] := by simpa [harmed] using h.fired_iff
  -- an answer before the first report could only have been the end, and then no report waits
  have hanswers : w.answers = [] := by
    obtain ⟨n, hanswers⟩ := h.answers
    cases n with
    | zero => exact hanswers
    | succ n => simp [hanswers, List.replicate_succ] at hnone
  exact { h with
    order := ⟨rest, hall⟩
    queue := fun _ => hall
    fired := rfl
    answers := ⟨0, by simp [settle, hanswers]⟩
    ended := fun hended => by simp [settle, hanswers] at hended
    reading := nofun }

/-- A report that is not the first is passed over. -/
theorem Tracks.pass (h : Tracks reports taken w) (hread : w.channel.read = true) {d : Drop}
    {rest : List Drop} (hqueue : w.channel.queue = d :: rest) (hfired : w.channel.fired = true) :
    Tracks reports (taken ++ [d]) (w.settle (.nothingYet, { w.channel with queue := rest })) := by
  have hnone := h.not_ended_of_queue hread hqueue
  have hall := h.queue hread
  rw [hqueue, List.append_cons] at hall
  obtain ⟨first, others, rfl⟩ := List.exists_cons_of_ne_nil (h.fired_iff.1 hfired)
  exact { h with
    order := ⟨rest, hall⟩
    queue := fun _ => hall
    ended := fun hended => absurd hended hnone }

/-- A call takes out the report at the head, and is told what comes of it. -/
theorem Tracks.receive (h : Tracks reports taken w) (hasking : w.asking = true) :
    Tracks reports (taken ++ w.channel.queue.head?.toList) (w.settle w.channel.receive) := by
  have hread := h.reading hasking
  cases hqueue : w.channel.queue with
  | nil =>
    rw [Channel.receive_of_empty hqueue, List.head?_nil, Option.toList_none, List.append_nil]
    split
    · rename_i hnobody
      exact h.ends hread hqueue hnobody
    · exact h
  | cons d rest =>
    cases hfired : w.channel.fired with
    | false =>
      rw [Channel.receive_of_armed hqueue hfired]
      exact h.first hread hqueue hfired
    | true =>
      rw [Channel.receive_of_fired hqueue hfired]
      exact h.pass hread hqueue hfired

/-- Every event adds to the reports what is made in it, and to the taken what it takes out. -/
theorem Tracks.step (h : Tracks reports taken w) (e : Event) :
    Tracks (reports ++ (w.report? e).toList) (taken ++ (w.taken? e).toList) (w.step e) := by
  cases e <;> simp only [report?, taken?, Option.toList_none, List.append_nil, SharedChannel.step]
  case share r =>
    split
    · rename_i hr
      exact { h with
        ended := fun hended => absurd hended (h.not_ended hr)
        count := by simp [Channel.addReporter, h.count] }
    · exact h
  case publish r d =>
    split
    · rename_i hr
      exact h.publish hr d
    · simpa using h
  case leave r =>
    split
    · rename_i hr
      exact { h with
        ended := fun hended => absurd hended (h.not_ended hr)
        count := by simp [Channel.dropReporter, h.count, List.length_erase_of_mem hr] }
    · exact h
  case ask =>
    split
    · rename_i hread
      exact { h with reading := fun _ => hread }
    · exact h
  case take =>
    split
    · rename_i hasking
      exact h.receive hasking
    · simpa using h
  case giveUp => exact { h with reading := nofun }
  case close =>
    exact { h with
      queue := nofun
      reading := nofun }

/-- In any run the reports that were taken are the first of those made, and the rest waits. -/
theorem run_tracks (h : Tracks reports taken w) (es : List Event) :
    Tracks (reports ++ w.reported es) (taken ++ w.takenOut es) (w.run es) := by
  induction es generalizing w reports taken with
  | nil => simpa [reported, takenOut, run] using h
  | cons e es ih =>
    rw [reported, takenOut, ← List.append_assoc, ← List.append_assoc]
    exact ih (h.step e)

theorem tracks_start : Tracks [] [] {} where
  order := List.prefix_refl []
  queue := fun _ => rfl
  fired := rfl
  answers := ⟨0, rfl⟩
  ended := nofun
  count := rfl
  reading := nofun

theorem run_cons (w : SharedChannel) (e : Event) (es : List Event) :
    w.run (e :: es) = (w.step e).run es := rfl

theorem run_of_idle (h : w.asking = false) (n : Nat) : w.run (List.replicate n .take) = w := by
  induction n with
  | zero => rfl
  | succ n ih =>
    have hstep : w.step .take = w := by simp [SharedChannel.step, h]
    rw [List.replicate_succ, run_cons, hstep, ih]

/-- A call that nobody disturbs takes out reports until it is told what is next, or has to wait. -/
theorem run_takes (h : w.asking = true) :
    w.run (List.replicate (w.channel.queue.length + 1) .take) = w.settle w.channel.next := by
  generalize hqueue : w.channel.queue = queue
  -- only a latch that has fired leaves the call going, and then the rest of the queue is next
  induction queue generalizing w with
  | nil =>
    rw [Channel.next_of_empty hqueue, List.length_nil, List.replicate_succ, run_cons]
    simp [SharedChannel.step, h, run]
  | cons d rest ih =>
    have hstep : w.step .take = w.settle w.channel.receive := by simp [SharedChannel.step, h]
    rw [List.length_cons, List.replicate_succ, run_cons, hstep]
    cases hfired : w.channel.fired with
    | false =>
      rw [Channel.next_of_armed hqueue hfired, Channel.receive_of_armed hqueue hfired]
      exact run_of_idle rfl _
    | true =>
      have hlater := ih (w := { w with channel := { w.channel with queue := rest } }) h rfl
      have hfired' : Channel.fired { w.channel with queue := rest } = true := hfired
      rw [Channel.receive_of_fired hqueue hfired, settle, hlater, Channel.next_of_fired hfired,
        Channel.next_of_fired hfired']
      rfl

/-- What a call is told that has no report to tell. -/
def verdict (w : SharedChannel) : Reading := if w.reporters = [] then .ended else .nothingYet

/-- What the reader learns of the reports of others. -/
structure Account (reports taken : List Drop) (w : SharedChannel) : Prop where
  /-- One call at most is told a report. It is the first of all, and other calls are told the end. -/
  answers : ∃ n, w.answers =
    (if w.channel.fired then reports.head?.map some else none).toList ++ List.replicate n none
  fired : w.channel.fired = true ↔ ∃ d, some d ∈ w.answers
  /-- The end is told when nobody can report and all reports are taken out. -/
  ended : none ∈ w.answers → w.reporters = [] ∧ taken = reports
  /-- Reports are taken out in the order in which they were made. -/
  order : taken <+: reports
  queue : w.channel.read = true → taken ++ w.channel.queue = reports
  /-- A call that nobody disturbs takes its course. -/
  alone : w.asking = true →
    w.run (List.replicate (w.channel.queue.length + 1) .take) = w.settle w.channel.next
  first : w.channel.read = true → w.channel.fired = false →
    w.channel.next.1 = reports.head?.elim w.verdict .report
  later : w.channel.fired = true →
    w.channel.next = (w.verdict, { w.channel with queue := [] })
  gone : w.channel.read = false → ∀ r d, w.step (.publish r d) = w

theorem Tracks.verdict_eq (h : Tracks reports taken w) :
    w.verdict = if w.channel.reporters = 0 then .ended else .nothingYet := by
  simp [verdict, h.count]

theorem Tracks.next_of_armed (h : Tracks reports taken w) (hread : w.channel.read = true)
    (harmed : w.channel.fired = false) :
    w.channel.next.1 = reports.head?.elim w.verdict .report := by
  obtain rfl : taken = [] := by simpa [harmed] using h.fired_iff
  have hqueue : w.channel.queue = reports := h.queue hread
  cases hreports : reports with
  | nil =>
    rw [hreports] at hqueue
    rw [Channel.next_of_empty hqueue, Channel.receive_of_empty hqueue, List.head?_nil,
      Option.elim_none, h.verdict_eq]
  | cons d rest =>
    rw [hreports] at hqueue
    rw [Channel.next_of_armed hqueue harmed, Channel.receive_of_armed hqueue harmed]
    rfl

theorem Tracks.answers_fired (h : Tracks reports taken w) :
    taken.head?.map some = if w.channel.fired then reports.head?.map some else none := by
  cases taken with
  | nil => simp [h.fired]
  | cons d rest =>
    obtain ⟨later, rfl⟩ := h.order
    simp [h.fired]

/-- The latch is tripped exactly when a call was told a report. -/
theorem Tracks.told_iff (h : Tracks reports taken w) :
    w.channel.fired = true ↔ ∃ d, some d ∈ w.answers := by
  obtain ⟨n, hanswers⟩ := h.answers
  rw [h.fired_iff, hanswers]
  cases taken <;> simp

/-- However many report, leave and let others report, and however they come in between the calls
of the reader: the first report is told once, and no other is ever told. -/
theorem first_report_told_once (es : List Event) :
    Account (reported {} es) (takenOut {} es) (run {} es) := by
  have h : Tracks (reported {} es) (takenOut {} es) (run {} es) := by
    simpa using run_tracks tracks_start es
  exact {
    answers := h.answers_fired ▸ h.answers
    fired := h.told_iff
    ended := h.ended
    order := h.order
    queue := h.queue
    alone := run_takes
    first := h.next_of_armed
    later := fun hfired => by rw [Channel.next_of_fired hfired, h.verdict_eq]
    gone := fun hgone r d => by simp [SharedChannel.step, Channel.publish, hgone] }

/-- Two report, and the call for which both have left takes out what came second. -/
example :
    let w := run {} [.share 0, .publish 1 ⟨.connection, "eof"⟩, .publish 0 ⟨.bridge, "closed"⟩,
      .ask, .take, .leave 0, .ask, .take, .leave 1, .publish 1 ⟨.transport, "keepalive"⟩, .take]
    w.answers = [some ⟨.connection, "eof"⟩, none] ∧ w.channel.fired = true := by
  decide

end SharedChannel

end Multiplexer
