import Mathlib.Data.List.Basic
import Multiplexer.Proofs.Connector.Turn

/-!
# What a chain asks for

A chain is driven by polls. A poll looks at the token first and then at the call
that the chain waits for, so a token that is cancelled in the course of a poll is
seen by the next one. Whatever is answered and whenever the token is cancelled,
the calls that lead on follow the hops, and after the last of them only links are
closed: all that were handed out, from the last to the first.
-/

namespace Multiplexer

namespace Call

def closes : Call → Bool
  | .closeLink _ => true
  | _ => false

/-- Whether a reply is one that a call of a chain can have. -/
def admits : Call → Reply → Bool
  | .hop .., .link _ => true
  | .tunnel .., .tunnel _ => true
  | .terminal .., .terminal _ => true
  | .closeLink _, .done => true
  | .closeLink _, _ => false
  | _, .failed _ => true
  | _, _ => false

end Call

namespace Passage

def linkOf : Call × Reply → Option Link
  | (.hop .., .link l) => some l
  | _ => none

def tunnelOf : Call × Reply → Option Tunnel
  | (.tunnel .., .tunnel t) => some t
  | _ => none

def closedBy : Call × Reply → Option Link
  | (.closeLink l, _) => some l
  | _ => none

def faultOf : Call × Reply → Option (Call × ConnectError)
  | (c, r) => r.error?.map (c, ·)

@[simp] theorem linkOf_failed (c : Call) (e : ConnectError) : linkOf (c, .failed e) = none := by
  cases c <;> rfl

@[simp] theorem tunnelOf_failed (c : Call) (e : ConnectError) : tunnelOf (c, .failed e) = none := by
  cases c <;> rfl

/-- Only a call that closes a link can close one. -/
theorem closedBy_of_closes {c : Call} (h : c.closes = false) (r : Reply) :
    closedBy (c, r) = none := by
  cases c <;> first | rfl | simp [Call.closes] at h

end Passage

/-- The calls that connect `hop` and the hops after it, as far as they are determined by the
tunnels and the links that the calls hand out. -/
def itinerary (size : TerminalSize) (channel : ChannelId) (tunnel : Option Tunnel) (hop : Hop) :
    List Hop → List Tunnel → List Link → List Call
  | _, _, [] => [.hop hop tunnel]
  | [], _, l :: _ => [.hop hop tunnel, .terminal l size channel]
  | next :: _, [], l :: _ => [.hop hop tunnel, .tunnel l next.hostname next.port]
  | next :: rest, t :: tunnels, l :: links =>
    .hop hop tunnel :: .tunnel l next.hostname next.port ::
      itinerary size channel (some t) next rest tunnels links

namespace ChainRun

def links : ChainRun → List Link
  | .tunnelling links _ _ _ => links
  | .connecting links _ _ _ => links
  | .opening links _ => links
  | _ => []

def missing : ChainRun → Nat
  | .tunnelling _ _ _ rest => rest.length + 1
  | .connecting _ _ _ rest => rest.length + 1
  | _ => 0

/-- The calls still to be made, as far as they are determined by what they hand out. -/
def ahead (size : TerminalSize) (channel : ChannelId) :
    ChainRun → List Tunnel → List Link → List Call
  | .tunnelling _ via hop _, [], _ => [.tunnel via hop.hostname hop.port]
  | .tunnelling _ via hop rest, t :: tunnels, links =>
    .tunnel via hop.hostname hop.port :: itinerary size channel (some t) hop rest tunnels links
  | .connecting _ tunnel hop rest, tunnels, links =>
    itinerary size channel tunnel hop rest tunnels links
  | .opening _ target, _, _ => [.terminal target size channel]
  | _, _, _ => []

variable {size : TerminalSize} {channel : ChannelId} {r : ChainRun}

@[simp] theorem unwind_nil (e : ConnectError) : unwind [] e = .failed e := rfl

@[simp] theorem unwind_cons (l : Link) (links : List Link) (e : ConnectError) :
    unwind (l :: links) e = .closing (l :: links) e := rfl

/-- An unwinding has failed at once exactly when there is no link to close. -/
theorem unwind_eq_failed {links : List Link} {e e' : ConnectError} :
    unwind links e = .failed e' ↔ links = [] ∧ e = e' := by
  cases links <;> simp

/-- An unwinding does not end with a connection. -/
theorem unwind_ne_connected (links : List Link) (e : ConnectError) (c : Connection) :
    unwind links e ≠ .connected c := by
  cases links <;> simp

@[simp] theorem not_cancellable_unwind (links : List Link) (e : ConnectError) :
    (unwind links e).cancellable = false := by
  cases links <;> rfl

/-- A failure closes the links from the last to the first. -/
theorem fail_eq (h : r.cancellable = true) (e : ConnectError) :
    r.fail e = unwind r.links.reverse e := by
  cases r <;> first | rfl | simp [cancellable] at h

/-- A run that may be called off waits for a call that leads on. -/
theorem call_of_cancellable (size : TerminalSize) (channel : ChannelId) (h : r.cancellable = true) :
    ∃ c, r.call size channel = some c ∧ c.closes = false ∧ r.ahead size channel [] [] = [c] := by
  cases r <;> first | exact ⟨_, rfl, rfl, by simp [ahead, itinerary]⟩ | simp [cancellable] at h

/-- An error as the answer to a call that leads on closes the links from the last to the first. -/
theorem answer_failed (h : r.cancellable = true) (e : ConnectError) :
    r.answer (.failed e) = unwind r.links.reverse e := by
  cases r <;> first | rfl | simp [cancellable] at h

/-- A run that may not be called off only closes links. -/
theorem closes_of_not_cancellable (h : r.cancellable = false) {c : Call}
    (hc : r.call size channel = some c) : ∃ l, c = .closeLink l := by
  cases r with
  | closing links e =>
    cases links with
    | nil => simp [call] at hc
    | cons l links => exact ⟨l, by simpa [call] using hc.symm⟩
  | failed => simp [call] at hc
  | connected => simp [call] at hc
  | _ => simp [cancellable] at h

open Passage in
structure Advanced (size : TerminalSize) (channel : ChannelId) (r : ChainRun) (c : Call)
    (reply : Reply) (r' : ChainRun) : Prop where
  cancellable : r'.cancellable = true
  closes : c.closes = false
  error : reply.error? = none
  ahead : ∀ ts ls, r.ahead size channel ((tunnelOf (c, reply)).toList ++ ts)
    ((linkOf (c, reply)).toList ++ ls) = c :: r'.ahead size channel ts ls
  links : r'.links = r.links ++ (linkOf (c, reply)).toList
  missing : (linkOf (c, reply)).toList.length + r'.missing = r.missing
  last : ∀ ls target, r' = .opening ls target → ls.getLast? = some target

open Passage in
/-- With a tunnel, the run goes on to the hop behind it. -/
theorem advanced_tunnel (links : List Link) (via : Link) (hop : Hop) (rest : List Hop)
    (t : Tunnel) : Advanced size channel (.tunnelling links via hop rest)
      (.tunnel via hop.hostname hop.port) (.tunnel t) (.connecting links (some t) hop rest) where
  cancellable := rfl
  closes := rfl
  error := rfl
  ahead := fun _ _ => rfl
  links := by simp [ChainRun.links, linkOf]
  missing := by simp [ChainRun.missing, linkOf]
  last := by simp

open Passage in
/-- With a link to a hop, the run goes on to the next one, or to the terminal. -/
theorem advanced_link (links : List Link) (tunnel : Option Tunnel) (hop : Hop) (rest : List Hop)
    (l : Link) : Advanced size channel (.connecting links tunnel hop rest) (.hop hop tunnel)
      (.link l) (proceed (links ++ [l]) l rest) where
  cancellable := by cases rest <;> rfl
  closes := rfl
  error := rfl
  ahead := fun ts _ => by cases rest <;> cases ts <;> rfl
  links := by cases rest <;> rfl
  missing := by cases rest <;> simp [ChainRun.missing, proceed, linkOf]; omega
  last := by cases rest <;> simp [proceed]

/-- What an answer can do to a run that may be called off. -/
theorem answer_cases (h : r.cancellable = true) {c : Call} (hc : r.call size channel = some c)
    {reply : Reply} (hr : c.admits reply = true) :
    (∃ e, reply = .failed e) ∨ Advanced size channel r c reply (r.answer reply) ∨
      ∃ links target t, r = .opening links target ∧ c = .terminal target size channel ∧
        reply = .terminal t := by
  cases r with
  | tunnelling links via hop rest =>
    obtain rfl : Call.tunnel via hop.hostname hop.port = c := by simpa [call] using hc
    cases reply with
    | failed e => exact .inl ⟨e, rfl⟩
    | tunnel t => exact .inr (.inl (advanced_tunnel links via hop rest t))
    | _ => simp [Call.admits] at hr
  | connecting links tunnel hop rest =>
    obtain rfl : Call.hop hop tunnel = c := by simpa [call] using hc
    cases reply with
    | failed e => exact .inl ⟨e, rfl⟩
    | link l => exact .inr (.inl (advanced_link links tunnel hop rest l))
    | _ => simp [Call.admits] at hr
  | opening links target =>
    obtain rfl : Call.terminal target size channel = c := by simpa [call] using hc
    cases reply with
    | failed e => exact .inl ⟨e, rfl⟩
    | terminal t => exact .inr (.inr ⟨links, target, t, rfl, rfl, rfl⟩)
    | _ => simp [Call.admits] at hr
  | _ => simp [cancellable] at h

end ChainRun

/-- A chain with all that was asked of others for it. -/
structure Passage where
  run : ChainRun
  cancelled : Bool := false
  /-- Whether the call that the chain waits for has been made. -/
  asked : Bool := false
  calls : List Call := []
  answers : List (Call × Reply) := []

namespace Passage

inductive Event where
  /-- The token is cancelled. -/
  | cancel
  /-- The chain is looked after, and may find an answer. -/
  | poll (reply : Option Reply)

section Steps

variable (size : TerminalSize) (channel : ChannelId)

def ask (p : Passage) : Passage :=
  match p.run.call size channel with
  | some c => if p.asked then p else { p with asked := true, calls := p.calls ++ [c] }
  | none => p

def answered (p : Passage) (c : Call) (r : Reply) : Passage :=
  { p with run := p.run.answer r, asked := false, answers := p.answers ++ [(c, r)] }

def hear (p : Passage) (r : Reply) : Passage :=
  match p.run.call size channel with
  | some c => if c.admits r then p.answered c r else p
  | none => p

def callOff (p : Passage) : Passage := { p with run := p.run.cancel, asked := false }

def step (p : Passage) : Event → Passage
  | .cancel => { p with cancelled := true }
  | .poll reply =>
    if p.run.cancellable && p.cancelled then p.callOff
    else
      match reply with
      | none => p.ask size channel
      | some r => (p.ask size channel).hear size channel r

def after (p : Passage) (es : List Event) : Passage := es.foldl (step size channel) p

end Steps

/-- The calls other than those that close a link. -/
def onward (p : Passage) : List Call := p.calls.filter fun c => !c.closes

def links (p : Passage) : List Link := p.answers.filterMap linkOf

def tunnels (p : Passage) : List Tunnel := p.answers.filterMap tunnelOf

def closed (p : Passage) : List Link := p.answers.filterMap closedBy

def fault (p : Passage) : Option (Call × ConnectError) := p.answers.findSome? faultOf

def current (size : TerminalSize) (channel : ChannelId) (p : Passage) : List Call :=
  if p.asked then (p.run.call size channel).toList else []

section Projections

variable {p : Passage} {size : TerminalSize} {channel : ChannelId} (c : Call) (r : Reply)

@[simp] theorem run_answered : (p.answered c r).run = p.run.answer r := rfl

@[simp] theorem cancelled_answered : (p.answered c r).cancelled = p.cancelled := rfl

@[simp] theorem calls_answered : (p.answered c r).calls = p.calls := rfl

@[simp] theorem current_answered : (p.answered c r).current size channel = [] := rfl

@[simp] theorem answers_answered : (p.answered c r).answers = p.answers ++ [(c, r)] := rfl

@[simp] theorem links_answered : (p.answered c r).links = p.links ++ (linkOf (c, r)).toList := by
  simp only [links, answers_answered, List.filterMap_append, List.filterMap_cons,
    List.filterMap_nil]
  cases linkOf (c, r) <;> rfl

@[simp] theorem tunnels_answered :
    (p.answered c r).tunnels = p.tunnels ++ (tunnelOf (c, r)).toList := by
  simp only [tunnels, answers_answered, List.filterMap_append, List.filterMap_cons,
    List.filterMap_nil]
  cases tunnelOf (c, r) <;> rfl

@[simp] theorem closed_answered :
    (p.answered c r).closed = p.closed ++ (closedBy (c, r)).toList := by
  simp only [closed, answers_answered, List.filterMap_append, List.filterMap_cons,
    List.filterMap_nil]
  cases closedBy (c, r) <;> rfl

@[simp] theorem fault_answered : (p.answered c r).fault = p.fault.or (faultOf (c, r)) := by
  simp only [fault, answers_answered, List.findSome?_append, List.findSome?_cons,
    List.findSome?_nil]
  cases faultOf (c, r) <;> rfl

@[simp] theorem run_ask : (p.ask size channel).run = p.run := by
  unfold ask; split <;> [split; skip] <;> rfl

@[simp] theorem cancelled_ask : (p.ask size channel).cancelled = p.cancelled := by
  unfold ask; split <;> [split; skip] <;> rfl

@[simp] theorem answers_ask : (p.ask size channel).answers = p.answers := by
  unfold ask; split <;> [split; skip] <;> rfl

@[simp] theorem links_ask : (p.ask size channel).links = p.links := by simp [links]

@[simp] theorem tunnels_ask : (p.ask size channel).tunnels = p.tunnels := by simp [tunnels]

@[simp] theorem closed_ask : (p.ask size channel).closed = p.closed := by simp [closed]

@[simp] theorem fault_ask : (p.ask size channel).fault = p.fault := by simp [fault]

@[simp] theorem run_callOff : p.callOff.run = p.run.cancel := rfl

@[simp] theorem cancelled_callOff : p.callOff.cancelled = p.cancelled := rfl

@[simp] theorem calls_callOff : p.callOff.calls = p.calls := rfl

@[simp] theorem current_callOff : p.callOff.current size channel = [] := rfl

@[simp] theorem links_callOff : p.callOff.links = p.links := rfl

@[simp] theorem tunnels_callOff : p.callOff.tunnels = p.tunnels := rfl

@[simp] theorem closed_callOff : p.callOff.closed = p.closed := rfl

@[simp] theorem fault_callOff : p.callOff.fault = p.fault := rfl

theorem asked_ask {c : Call} (hc : p.run.call size channel = some c) :
    (p.ask size channel).asked = true := by
  unfold ask; simp only [hc]; split <;> simp_all

/-- Asking completes the calls by the one that the chain waits for. -/
theorem calls_ask {done : List Call} (h : p.calls = done ++ p.current size channel) :
    (p.ask size channel).calls = done ++ (p.ask size channel).current size channel := by
  unfold ask
  cases hc : p.run.call size channel with
  | none => simpa [hc, current] using h
  | some c => cases ha : p.asked <;> simp_all [current]

/-- A fitting answer of the call in flight is taken, and any other is ignored. -/
theorem hear_cases (p : Passage) (size : TerminalSize) (channel : ChannelId) (r : Reply) :
    p.hear size channel r = p ∨
    ∃ c, p.run.call size channel = some c ∧ c.admits r = true ∧
      p.hear size channel r = p.answered c r := by
  unfold hear
  cases p.run.call size channel with
  | none => exact .inl rfl
  | some c =>
    cases hr : c.admits r with
    | false => exact .inl (by simp [hr])
    | true => exact .inr ⟨c, rfl, hr, by simp [hr]⟩

end Projections

section Course

variable (size : TerminalSize) (channel : ChannelId) (first : Hop) (rest : List Hop)

/-- All hops so far are connected, and `done` are the calls that were answered. -/
structure Outbound (p : Passage) (done : List Call) : Prop where
  cancellable : p.run.cancellable = true
  calls : p.calls = done ++ p.current size channel
  /-- Whatever is handed out from here on, the whole way is what is done and what is ahead. -/
  route : ∀ ts ls, itinerary size channel none first rest (p.tunnels ++ ts) (p.links ++ ls) =
    done ++ p.run.ahead size channel ts ls
  links : p.run.links = p.links
  missing : p.links.length + p.run.missing = rest.length + 1
  last : ∀ ls target, p.run = .opening ls target → ls.getLast? = some target
  onward : ∀ c ∈ done, c.closes = false
  closed : p.closed = []
  fault : p.fault = none

/-- The links in `todo` are still to be closed before the error is handed on. -/
structure Unwinding (p : Passage) (way : List Call) (todo : List Link) (e : ConnectError) :
    Prop where
  run : p.run = .unwind todo e
  links : p.links.reverse = p.closed ++ todo
  calls : p.calls = way ++ (p.closed.map Call.closeLink ++ p.current size channel)
  planned : way <+: itinerary size channel none first rest p.tunnels p.links
  onward : ∀ c ∈ way, c.closes = false
  cause : (∃ c, p.fault = some (c, e) ∧ way.getLast? = some c) ∨
    p.fault = none ∧ p.cancelled = true ∧ e = .cancelled

structure Arrived (p : Passage) (t : Terminal) : Prop where
  run : p.run = .connected (.chained t p.links)
  calls : p.calls = itinerary size channel none first rest p.tunnels p.links
  length : p.links.length = rest.length + 1
  opened : ∃ l, p.links.getLast? = some l ∧ (.terminal l size channel, .terminal t) ∈ p.answers
  onward : ∀ c ∈ p.calls, c.closes = false

/-- Where a chain can be. -/
inductive OnCourse (p : Passage) : Prop where
  | outbound (done : List Call) (h : Outbound size channel first rest p done)
  | unwinding (way : List Call) (todo : List Link) (e : ConnectError)
    (h : Unwinding size channel first rest p way todo e)
  | arrived (t : Terminal) (h : Arrived size channel first rest p t)

end Course

variable {p : Passage} {size : TerminalSize} {channel : ChannelId} {first : Hop} {rest : List Hop}

theorem filter_onward {way : List Call} (h : ∀ c ∈ way, c.closes = false) :
    way.filter (fun c => !c.closes) = way :=
  List.filter_eq_self.2 fun c hc => by simp [h c hc]

theorem filter_closeLink (links : List Link) :
    (links.map Call.closeLink).filter (fun c => !c.closes) = [] := by
  simp [List.filter_eq_nil_iff, Call.closes]

/-- A chain begins on its way to the first hop. -/
theorem outbound_start :
    Outbound size channel first rest { run := .start (first :: rest) } [] where
  cancellable := rfl
  calls := by simp [current]
  route := fun _ _ => rfl
  links := rfl
  missing := by simp [links, ChainRun.start, ChainRun.missing]
  last := by simp [ChainRun.start]
  onward := by simp
  closed := rfl
  fault := rfl

namespace Outbound

variable {done : List Call}

theorem ask (h : Outbound size channel first rest p done) :
    Outbound size channel first rest (p.ask size channel) done where
  cancellable := by simpa using h.cancellable
  calls := calls_ask h.calls
  route := by simpa using h.route
  links := by simpa using h.links
  missing := by simpa using h.missing
  last := by simpa using h.last
  onward := h.onward
  closed := by simpa using h.closed
  fault := by simpa using h.fault

/-- With what was handed out so far the way ends at the call that the chain waits for. -/
theorem itinerary_eq (h : Outbound size channel first rest p done) {c : Call}
    (hc : p.run.ahead size channel [] [] = [c]) :
    itinerary size channel none first rest p.tunnels p.links = done ++ [c] := by
  simpa [hc] using h.route [] []

/-- A chain that is called off on its way closes what it holds, the last link first. -/
theorem callOff (h : Outbound size channel first rest p done) (hcancelled : p.cancelled = true) :
    Unwinding size channel first rest p.callOff p.calls p.links.reverse .cancelled := by
  obtain ⟨c, hc, hcloses, hahead⟩ := ChainRun.call_of_cancellable size channel h.cancellable
  have hcalls : p.calls = done ∨ p.calls = done ++ [c] := by
    rw [h.calls, current, hc]
    cases p.asked <;> simp
  refine ⟨?_, ?_, ?_, ?_, ?_, .inr ⟨h.fault, hcancelled, rfl⟩⟩
  · rw [run_callOff, ← h.links]
    exact ChainRun.fail_eq h.cancellable _
  · simp [h.closed]
  · simp [h.closed]
  · rw [tunnels_callOff, links_callOff, h.itinerary_eq hahead]
    obtain hcalls | hcalls := hcalls <;> simp [hcalls]
  · obtain hcalls | hcalls := hcalls
    · simpa [hcalls] using h.onward
    · simpa [hcalls, or_imp, forall_and, hcloses] using h.onward

/-- The calls of a chain on its way are those that were answered and the one in flight. -/
theorem calls_of_asked (h : Outbound size channel first rest p done) (hasked : p.asked = true)
    {c : Call} (hc : p.run.call size channel = some c) : p.calls = done ++ [c] := by
  simpa [current, hasked, hc] using h.calls

theorem onward_append (h : Outbound size channel first rest p done) {c : Call}
    (hc : c.closes = false) : ∀ c' ∈ done ++ [c], c'.closes = false := by
  simpa [or_imp, forall_and, hc] using h.onward

/-- A call that leads on has failed. -/
theorem failed (h : Outbound size channel first rest p done) (hasked : p.asked = true)
    {c : Call} (hc : p.run.call size channel = some c) (e : ConnectError) :
    Unwinding size channel first rest (p.answered c (.failed e)) (done ++ [c])
      p.links.reverse e := by
  obtain ⟨c, hc', hcloses, hahead⟩ := ChainRun.call_of_cancellable size channel h.cancellable
  obtain rfl := Option.some.inj (hc.symm.trans hc')
  have hclosed := closedBy_of_closes hcloses (.failed e)
  refine ⟨?_, ?_, ?_, ?_, h.onward_append hcloses, .inl ⟨_, ?_, List.getLast?_concat⟩⟩
  · rw [run_answered, ← h.links]
    exact ChainRun.answer_failed h.cancellable e
  · simp [h.closed, hclosed]
  · simp [h.closed, hclosed, h.calls_of_asked hasked hc]
  · simp [h.itinerary_eq hahead]
  · simp [h.fault, faultOf, Reply.error?]

/-- The answer that a call is made for brings a chain on its way. -/
theorem advanced (h : Outbound size channel first rest p done) (hasked : p.asked = true)
    {c : Call} (hc : p.run.call size channel = some c) {r : Reply}
    (ha : p.run.Advanced size channel c r (p.run.answer r)) :
    Outbound size channel first rest (p.answered c r) (done ++ [c]) where
  cancellable := ha.cancellable
  calls := by simp [h.calls_of_asked hasked hc]
  route := fun ts ls => by
    rw [tunnels_answered, links_answered, List.append_assoc, List.append_assoc, h.route, ha.ahead]
    simp
  links := by rw [run_answered, ha.links, h.links, links_answered]
  missing := by
    have hmissing := h.missing
    have hstep := ha.missing
    simp only [links_answered, run_answered, List.length_append]
    omega
  last := ha.last
  onward := h.onward_append ha.closes
  closed := by simp [h.closed, closedBy_of_closes ha.closes]
  fault := by simp [h.fault, faultOf, ha.error]

/-- The answer to the last call opens the terminal. -/
theorem arrived (h : Outbound size channel first rest p done) (hasked : p.asked = true)
    {links : List Link} {target : Link} (hrun : p.run = .opening links target) (t : Terminal) :
    Arrived size channel first rest (p.answered (.terminal target size channel) (.terminal t)) t := by
  have hlinks : links = p.links := by simpa [hrun, ChainRun.links] using h.links
  have hcalls := h.calls_of_asked hasked (c := .terminal target size channel)
    (by simp [hrun, ChainRun.call])
  have hroute := h.itinerary_eq (c := .terminal target size channel)
    (by simp [hrun, ChainRun.ahead])
  refine ⟨?_, ?_, ?_, ⟨target, ?_, ?_⟩, ?_⟩
  · simp [hrun, ChainRun.answer, linkOf, hlinks]
  · simp [hcalls, hroute, linkOf, tunnelOf]
  · simpa [hrun, ChainRun.missing, linkOf] using h.missing
  · simpa [linkOf, hlinks] using h.last _ _ hrun
  · simp
  · rw [calls_answered, hcalls]
    exact h.onward_append rfl

/-- However its call is answered, a chain on its way stays on course. -/
theorem answered (h : Outbound size channel first rest p done) (hasked : p.asked = true)
    {c : Call} (hc : p.run.call size channel = some c) {r : Reply} (hr : c.admits r = true) :
    OnCourse size channel first rest (p.answered c r) := by
  obtain ⟨e, rfl⟩ | ha | ⟨links, target, t, hrun, rfl, rfl⟩ :=
    ChainRun.answer_cases h.cancellable hc hr
  · exact .unwinding _ _ e (h.failed hasked hc e)
  · exact .outbound _ (h.advanced hasked hc ha)
  · exact .arrived t (h.arrived hasked hrun t)

end Outbound

namespace Unwinding

variable {way : List Call} {todo : List Link} {e : ConnectError}

/-- What unwinds closes the first of the links that are left. -/
theorem call_eq (h : Unwinding size channel first rest p way todo e) :
    p.run.call size channel = todo.head?.map .closeLink := by
  rw [h.run]
  cases todo <;> rfl

theorem ask (h : Unwinding size channel first rest p way todo e) :
    Unwinding size channel first rest (p.ask size channel) way todo e where
  run := by simpa using h.run
  links := by simpa using h.links
  calls := by
    have hcalls : p.calls = (way ++ p.closed.map Call.closeLink) ++ p.current size channel := by
      simpa using h.calls
    simpa using calls_ask hcalls
  planned := by simpa using h.planned
  onward := h.onward
  cause := by simpa using h.cause

/-- Whatever is answered while it unwinds, one link less is left to close. -/
theorem answered (h : Unwinding size channel first rest p way todo e) (hasked : p.asked = true)
    {c : Call} (hc : p.run.call size channel = some c) {r : Reply} (hr : c.admits r = true) :
    Unwinding size channel first rest (p.answered c r) way todo.tail e := by
  obtain ⟨l, todo, rfl, rfl⟩ : ∃ l todo', todo = l :: todo' ∧ c = .closeLink l := by
    rw [h.call_eq] at hc
    cases todo with
    | nil => simp at hc
    | cons l todo => exact ⟨l, todo, rfl, by simpa using hc.symm⟩
  obtain rfl : r = .done := by cases r <;> first | rfl | simp [Call.admits] at hr
  have hcalls : p.calls = way ++ (p.closed.map Call.closeLink ++ [.closeLink l]) := by
    simpa [current, hasked, hc] using h.calls
  refine ⟨?_, ?_, ?_, ?_, h.onward, ?_⟩
  · rw [run_answered, h.run]
    rfl
  · simpa [linkOf, closedBy] using h.links
  · simpa [closedBy] using hcalls
  · simpa [linkOf, tunnelOf] using h.planned
  · simpa [faultOf, Reply.error?] using h.cause

/-- After the way only links are closed. -/
theorem onward_eq (h : Unwinding size channel first rest p way todo e) : p.onward = way := by
  have hcurrent : (p.current size channel).filter (fun c => !c.closes) = [] := by
    rw [current, h.call_eq]
    cases p.asked <;> cases todo <;> simp [Call.closes]
  rw [Passage.onward, h.calls, List.filter_append, List.filter_append, filter_closeLink, hcurrent,
    filter_onward h.onward]
  simp

end Unwinding

/-- A chain that has arrived asks for nothing more. -/
theorem Arrived.call_eq {t : Terminal} (h : Arrived size channel first rest p t) :
    p.run.call size channel = none := by
  rw [h.run]; rfl

namespace OnCourse

theorem ask (h : OnCourse size channel first rest p) :
    OnCourse size channel first rest (p.ask size channel) := by
  cases h with
  | outbound done h => exact .outbound done h.ask
  | unwinding way todo e h => exact .unwinding way todo e h.ask
  | arrived t h => exact .arrived t (by simpa [Passage.ask, h.call_eq] using h)

/-- Every answer that a call can have keeps a chain on course. -/
theorem answered (h : OnCourse size channel first rest p) (hasked : p.asked = true)
    {c : Call} (hc : p.run.call size channel = some c) {r : Reply} (hr : c.admits r = true) :
    OnCourse size channel first rest (p.answered c r) := by
  cases h with
  | outbound done h => exact h.answered hasked hc hr
  | unwinding way todo e h => exact .unwinding way _ e (h.answered hasked hc hr)
  | arrived t h => simp [h.call_eq] at hc

/-- A chain that is called off stays on course. -/
theorem callOff (h : OnCourse size channel first rest p) (hrun : p.run.cancellable = true)
    (hcancelled : p.cancelled = true) : OnCourse size channel first rest p.callOff := by
  cases h with
  | outbound done h => exact .unwinding _ _ _ (h.callOff hcancelled)
  | unwinding way todo e h => simp [h.run] at hrun
  | arrived t h => simp [h.run, ChainRun.cancellable] at hrun

theorem cancel (h : OnCourse size channel first rest p) :
    OnCourse size channel first rest { p with cancelled := true } := by
  cases h with
  | outbound done h => exact .outbound done ⟨h.1, h.2, h.3, h.4, h.5, h.6, h.7, h.8, h.9⟩
  | unwinding way todo e h =>
    refine .unwinding way todo e ⟨h.1, h.2, h.3, h.4, h.5, ?_⟩
    exact h.cause.imp_right fun hcause => ⟨hcause.1, rfl, hcause.2.2⟩
  | arrived t h => exact .arrived t ⟨h.1, h.2, h.3, h.4, h.5⟩

/-- An event keeps a chain on course. -/
theorem step (h : OnCourse size channel first rest p) (e : Event) :
    OnCourse size channel first rest (p.step size channel e) := by
  cases e with
  | cancel => exact h.cancel
  | poll reply =>
    simp only [Passage.step]
    split
    · next hoff =>
      rw [Bool.and_eq_true] at hoff
      exact h.callOff hoff.1 hoff.2
    · cases reply with
      | none => exact h.ask
      | some r =>
        change OnCourse size channel first rest ((p.ask size channel).hear size channel r)
        obtain heq | ⟨c, hc, hr, heq⟩ := hear_cases (p.ask size channel) size channel r
        · rw [heq]
          exact h.ask
        · rw [heq]
          exact h.ask.answered (asked_ask (by simpa using hc)) hc hr

/-- A chain is on course at all times. -/
theorem after (h : OnCourse size channel first rest p) (es : List Event) :
    OnCourse size channel first rest (p.after size channel es) := by
  induction es generalizing p with
  | nil => exact h
  | cons e es ih => exact ih (h.step e)

/-- A chain on course has asked for the first calls of its way, and for no others. -/
theorem onward_prefix (h : OnCourse size channel first rest p) :
    p.onward <+: itinerary size channel none first rest p.tunnels p.links := by
  cases h with
  | outbound done h =>
    obtain ⟨c, hc, hcloses, hahead⟩ := ChainRun.call_of_cancellable size channel h.cancellable
    rw [onward, h.calls, List.filter_append, filter_onward h.onward, h.itinerary_eq hahead,
      List.prefix_append_right_inj, current, hc]
    cases p.asked <;> simp [hcloses]
  | unwinding way todo e h =>
    rw [h.onward_eq]
    exact h.planned
  | arrived t h =>
    have hcourse : p.onward = itinerary size channel none first rest p.tunnels p.links := by
      rw [onward, filter_onward h.onward, h.calls]
    exact hcourse ▸ List.prefix_rfl

/-- A chain that has failed has closed all its links and failed by its last call or by being
cancelled. -/
theorem failed (h : OnCourse size channel first rest p) {e : ConnectError}
    (he : p.run = .failed e) :
    p.calls = p.onward ++ p.links.reverse.map .closeLink ∧ p.closed = p.links.reverse ∧
      ((∃ c, p.fault = some (c, e) ∧ p.onward.getLast? = some c) ∨
        p.fault = none ∧ p.cancelled = true ∧ e = .cancelled) := by
  cases h with
  | outbound done h =>
    have hrun := h.cancellable
    simp [he, ChainRun.cancellable] at hrun
  | unwinding way todo e' h =>
    obtain ⟨rfl, rfl⟩ := ChainRun.unwind_eq_failed.1 (h.run.symm.trans he)
    have hclosed : p.closed = p.links.reverse := by simpa using h.links.symm
    have hcurrent : p.current size channel = [] := by simp [current, h.call_eq]
    rw [h.onward_eq, ← hclosed]
    exact ⟨by simpa [hcurrent] using h.calls, rfl, h.cause⟩
  | arrived t h => cases h.run.symm.trans he

/-- A chain that is connected holds a link for each hop and has arrived. -/
theorem connected (h : OnCourse size channel first rest p) {connection : Connection}
    (hc : p.run = .connected connection) :
    ∃ t, connection = .chained t p.links ∧ Arrived size channel first rest p t := by
  cases h with
  | outbound done h =>
    have hrun := h.cancellable
    simp [hc, ChainRun.cancellable] at hrun
  | unwinding way todo e h =>
    exact absurd (h.run.symm.trans hc) (ChainRun.unwind_ne_connected _ _ _)
  | arrived t h => exact ⟨t, ChainRun.connected.inj (hc.symm.trans h.run), h⟩

/-- No call has failed as long as a chain may be called off. -/
theorem fault_of_cancellable (h : OnCourse size channel first rest p)
    (hrun : p.run.cancellable = true) : p.fault = none := by
  cases h with
  | outbound done h => exact h.fault
  | unwinding way todo e h => simp [h.run] at hrun
  | arrived t h => simp [h.run, ChainRun.cancellable] at hrun

end OnCourse

/-- Between `p` and `q` no call that leads on was made or took effect. -/
structure Halted (p q : Passage) : Prop where
  cancelled : q.cancelled = true
  onward : q.onward = p.onward
  links : q.links = p.links
  tunnels : q.tunnels = p.tunnels
  fault : q.fault = p.fault
  connected : ∀ c, q.run = .connected c → p.run = .connected c

namespace Halted

theorem refl (h : p.cancelled = true) : Halted p p := ⟨h, rfl, rfl, rfl, rfl, fun _ h => h⟩

theorem trans {q s : Passage} (h : Halted p q) (h' : Halted q s) : Halted p s where
  cancelled := h'.cancelled
  onward := h'.onward.trans h.onward
  links := h'.links.trans h.links
  tunnels := h'.tunnels.trans h.tunnels
  fault := h'.fault.trans h.fault
  connected := fun c hc => h.connected c (h'.connected c hc)

theorem callOff (h : p.cancelled = true) (hrun : p.run.cancellable = true) : Halted p p.callOff where
  cancelled := h
  onward := rfl
  links := rfl
  tunnels := rfl
  fault := rfl
  connected := fun c hc => by
    rw [run_callOff, ChainRun.cancel, ChainRun.fail_eq hrun] at hc
    exact absurd hc (ChainRun.unwind_ne_connected _ _ _)

theorem ask (h : p.cancelled = true) (hrun : p.run.cancellable = false) :
    Halted p (p.ask size channel) where
  cancelled := by simpa using h
  onward := by
    unfold Passage.ask
    cases hc : p.run.call size channel with
    | none => rfl
    | some c =>
      obtain ⟨l, rfl⟩ := ChainRun.closes_of_not_cancellable hrun hc
      cases p.asked <;> simp [Passage.onward, Call.closes]
  links := links_ask
  tunnels := tunnels_ask
  fault := fault_ask
  connected := fun c hc => by simpa using hc

theorem answered (h : p.cancelled = true) (hrun : p.run.cancellable = false) {c : Call}
    (hc : p.run.call size channel = some c) {r : Reply} (hr : c.admits r = true) :
    Halted p (p.answered c r) := by
  obtain ⟨l, rfl⟩ := ChainRun.closes_of_not_cancellable hrun hc
  obtain rfl : r = .done := by cases r <;> first | rfl | simp [Call.admits] at hr
  refine ⟨h, rfl, by simp [linkOf], by simp [tunnelOf], by simp [faultOf, Reply.error?], ?_⟩
  intro c hconnected
  cases hrun' : p.run with
  | closing links e =>
    cases links with
    | nil => simp [hrun', ChainRun.call] at hc
    | cons l links =>
      rw [run_answered, hrun'] at hconnected
      exact absurd hconnected (ChainRun.unwind_ne_connected _ _ _)
  | _ => simp [hrun', ChainRun.call] at hc

/-- From a cancelled chain no event gets another call that leads on. -/
theorem step (h : p.cancelled = true) (e : Event) : Halted p (p.step size channel e) := by
  cases e with
  | cancel => exact ⟨rfl, rfl, rfl, rfl, rfl, fun _ h => h⟩
  | poll reply =>
    cases hrun : p.run.cancellable with
    | true => simpa [Passage.step, hrun, h] using callOff h hrun
    | false =>
      have hask : Halted p (p.ask size channel) := ask h hrun
      cases reply with
      | none => simpa [Passage.step, hrun] using hask
      | some r =>
        simp only [Passage.step, hrun, Bool.false_and, Bool.false_eq_true, if_false]
        obtain heq | ⟨c, hc, hr, heq⟩ := hear_cases (p.ask size channel) size channel r
        · rw [heq]
          exact hask
        · rw [heq]
          exact hask.trans (answered hask.cancelled (by simpa using hrun) hc hr)

/-- Once a chain is cancelled, no call that leads on is made or takes effect. -/
theorem after (h : p.cancelled = true) (es : List Event) :
    Halted p (p.after size channel es) := by
  induction es generalizing p with
  | nil => exact refl h
  | cons e es ih =>
    have hstep : Halted p (p.step size channel e) := step h e
    exact hstep.trans (ih hstep.cancelled)

end Halted

end Passage

def Task.answered (t : Task) (replies : List Reply) (u : Turn) : Task × Turn :=
  replies.foldl (fun x r => TurnM.exec (x.1.resume (.reply r)) x.2) (t, u)

theorem Task.answered_over (result : Except ConnectError Unit) (replies : List Reply) (u : Turn) :
    (Task.over result).answered replies u = (.over result, u) := by
  induction replies with
  | nil => rfl
  | cons r replies ih => exact ih

/-- A task that closes makes its calls one after the other, each once. -/
theorem Task.wait_closing (size : TerminalSize) (todo : List Call) (replies : List Reply)
    (u : Turn) : ((Task.closing todo).answered replies u).1.wait size =
      match todo[replies.length]? with
      | some c => .call c none
      | none => .nothing := by
  induction replies generalizing todo with
  | nil => cases todo <;> rfl
  | cons r replies ih =>
    match todo with
    | [] | [_] =>
      change ((Task.over _).answered replies u).1.wait size = _
      rw [Task.answered_over]
      simp [Task.wait]
    | _ :: c :: todo =>
      change ((Task.closing (c :: todo)).answered replies u).1.wait size = _
      simpa using ih (c :: todo)

namespace Passage

/-- A chain of hops asks for no more than its way, in order. When it fails, what was asked for
after the last call of the way is only that the links be closed, and when it is connected no
link was closed. Once the token is cancelled nothing that leads on is asked for any more. -/
theorem follows_itinerary_or_unwinds (size : TerminalSize) (channel : ChannelId) (first : Hop) (rest : List Hop)
    (es : List Event) :
    let p := after size channel { run := .start (first :: rest) } es
    p.onward <+: itinerary size channel none first rest p.tunnels p.links ∧
    (∀ e, p.run = .failed e →
      p.calls = p.onward ++ p.links.reverse.map .closeLink ∧ p.closed = p.links.reverse ∧
      ((∃ c, p.fault = some (c, e) ∧ p.onward.getLast? = some c) ∨
        p.fault = none ∧ p.cancelled = true ∧ e = .cancelled)) ∧
    (∀ connection, p.run = .connected connection →
      p.calls = itinerary size channel none first rest p.tunnels p.links ∧
      (∀ l, Call.closeLink l ∉ p.calls) ∧ p.links.length = rest.length + 1 ∧
      ∃ last t, p.links.getLast? = some last ∧
        (.terminal last size channel, .terminal t) ∈ p.answers ∧
        connection = .chained t p.links ∧
        ∀ replies u, ((Task.closing connection.closing).answered replies u).1.wait size =
          match (.closeTerminal t :: p.links.reverse.map .closeLink : List Call)[replies.length]? with
          | some c => .call c none
          | none => .nothing) ∧
    (p.cancelled = true → ∀ later,
      let q := after size channel p later
      q.onward = p.onward ∧ q.tunnels = p.tunnels ∧ q.links = p.links ∧
      (p.run.cancellable = true → (∀ connection, q.run ≠ .connected connection) ∧
        ∀ e, q.run = .failed e → e = .cancelled)) := by
  intro p
  have hp : OnCourse size channel first rest p := .after (.outbound [] outbound_start) es
  refine ⟨hp.onward_prefix, fun e he => hp.failed he, fun connection hc => ?_, ?_⟩
  · obtain ⟨t, rfl, ht⟩ := hp.connected hc
    obtain ⟨last, hlast, hopened⟩ := ht.opened
    exact ⟨ht.calls, fun l hl => by simpa [Call.closes] using ht.onward _ hl, ht.length,
      last, t, hlast, hopened, rfl, fun replies u => Task.wait_closing size _ replies u⟩
  · intro hcancelled later q
    have hq : OnCourse size channel first rest q := hp.after later
    have hhalted : Halted p q := .after hcancelled later
    refine ⟨hhalted.onward, hhalted.tunnels, hhalted.links, fun hrun => ⟨fun connection hc => ?_,
      fun e he => ?_⟩⟩
    · simp [hhalted.connected _ hc, ChainRun.cancellable] at hrun
    · have hfault : q.fault = none := hhalted.fault.trans (hp.fault_of_cancellable hrun)
      obtain ⟨c, hcause, -⟩ | ⟨-, -, he'⟩ := (hq.failed he).2.2
      · simp [hfault] at hcause
      · exact he'

end Passage

end Multiplexer
