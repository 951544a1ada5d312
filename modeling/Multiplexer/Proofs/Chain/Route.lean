import Mathlib.Data.List.Forall2
import Multiplexer.Chain.Resolver

/-!
# Routes

The way to a target leads over all the jump hosts of its profile, each with the
credentials that the book holds for it, or straight to the target. There is
nothing in between: no chain is shortened, and none is filled in part.
-/

namespace Multiplexer

/-- A hop to a jump host, with the credentials that the book holds for its id. -/
structure CredentialBook.Serves (book : CredentialBook) (j : JumpHost) (h : Hop) : Prop where
  hostId : h.hostId = j.hostId
  hostname : h.hostname = j.hostname
  port : h.port = j.port
  username : h.username = j.username
  auth : book.get? j.hostId = some h.auth

inductive IsRoute (profiles : Profiles) (book : CredentialBook) (target : SshTarget) :
    List Hop → Prop where
  | chain (name : String) (jumps : List JumpHost) (hops : List Hop) :
    target.proxyJump = some name → profiles.lookup name = some jumps → jumps ≠ [] →
    List.Forall₂ book.Serves jumps hops → IsRoute profiles book target (hops ++ [target.host])
  /-- Without a known profile that has jump hosts and credentials for all of them. -/
  | direct : (∀ name jumps, target.proxyJump = some name → profiles.lookup name = some jumps →
      jumps ≠ [] → ∃ j ∈ jumps, book.get? j.hostId = none) →
    IsRoute profiles book target [target.host]

variable {profiles : Profiles} {book : CredentialBook} {target : SshTarget}
  {jumps : List JumpHost} {hops : List Hop}

theorem CredentialBook.serves_iff {j : JumpHost} {h : Hop} :
    book.Serves j h ↔ ∃ auth, book.get? j.hostId = some auth ∧ h = j.toHop auth := by
  constructor
  · intro hserves
    obtain ⟨hostId, hostname, port, username, auth⟩ := h
    obtain ⟨rfl, rfl, rfl, rfl, hauth⟩ := hserves
    exact ⟨auth, hauth, rfl⟩
  · rintro ⟨auth, hauth, rfl⟩
    exact ⟨rfl, rfl, rfl, rfl, hauth⟩

/-- There are credentials for every jump host, or some are missing. -/
theorem serves_or_lacks (book : CredentialBook) (jumps : List JumpHost) :
    (∃ hops, List.Forall₂ book.Serves jumps hops) ∨ ∃ j ∈ jumps, book.get? j.hostId = none := by
  induction jumps with
  | nil => exact .inl ⟨[], .nil⟩
  | cons j jumps ih =>
    cases hauth : book.get? j.hostId with
    | none => exact .inr ⟨j, by simp, hauth⟩
    | some auth =>
      refine ih.imp ?_ ?_
      · rintro ⟨hops, hserves⟩
        exact ⟨j.toHop auth :: hops, .cons (CredentialBook.serves_iff.mpr ⟨auth, hauth, rfl⟩) hserves⟩
      · rintro ⟨k, hk, hnone⟩
        exact ⟨k, List.mem_cons_of_mem j hk, hnone⟩

/-- A chain whose jump hosts all have credentials is filled in. -/
theorem fillJumps_of_serves (h : List.Forall₂ book.Serves jumps hops) :
    fillJumps book jumps = .ok hops := by
  induction h with
  | nil => rfl
  | cons hserves _ ih =>
    obtain ⟨auth, hauth, rfl⟩ := CredentialBook.serves_iff.mp hserves
    unfold fillJumps at ih ⊢
    rw [List.mapM_cons, hauth, ih]
    rfl

/-- One jump host without credentials is enough for the chain to be given up. -/
theorem fillJumps_of_lacks (h : ∃ j ∈ jumps, book.get? j.hostId = none) :
    ∃ text, fillJumps book jumps = .error (.chainResolution text) := by
  induction jumps with
  | nil => simp at h
  | cons j jumps ih =>
    cases hauth : book.get? j.hostId with
    | none =>
      unfold fillJumps
      rw [List.mapM_cons, hauth]
      exact ⟨_, rfl⟩
    | some auth =>
      obtain ⟨text, htext⟩ := ih (by simpa [hauth] using h)
      refine ⟨text, ?_⟩
      unfold fillJumps at htext ⊢
      rw [List.mapM_cons, hauth, htext]
      rfl

/-- Every target has a route. -/
theorem exists_route (profiles : Profiles) (book : CredentialBook) (target : SshTarget) :
    ∃ route, IsRoute profiles book target route := by
  by_cases hchain : ∃ name jumps hops, target.proxyJump = some name ∧
      profiles.lookup name = some jumps ∧ jumps ≠ [] ∧ List.Forall₂ book.Serves jumps hops
  · obtain ⟨name, jumps, hops, hname, hjumps, hne, hserves⟩ := hchain
    exact ⟨_, .chain name jumps hops hname hjumps hne hserves⟩
  · refine ⟨_, .direct fun name jumps hname hjumps hne => ?_⟩
    refine (serves_or_lacks book jumps).resolve_left fun ⟨hops, hserves⟩ => hchain ?_
    exact ⟨name, jumps, hops, hname, hjumps, hne, hserves⟩

/-- What the resolver finds, or that it finds nothing, comes to the route. -/
theorem IsRoute.routeOf_resolveChain {route : List Hop} (h : IsRoute profiles book target route) :
    routeOf target (resolveChain profiles book target false) = .ok route := by
  cases h with
  | chain name jumps hops hname hjumps hne hserves =>
    obtain ⟨j, rest, rfl⟩ := List.exists_cons_of_ne_nil hne
    simp only [resolveChain, hname, hjumps, fillJumps_of_serves hserves]
    change routeOf target (.ok (hops ++ [target.host])) = _
    cases hops <;> rfl
  | direct hlacks =>
    cases hname : target.proxyJump with
    | none => simp [resolveChain, hname, routeOf]
    | some name =>
      cases hjumps : profiles.lookup name with
      | none => simp [resolveChain, hname, hjumps, routeOf]
      | some jumps =>
        cases jumps with
        | nil => simp [resolveChain, hname, hjumps, routeOf]
        | cons j rest =>
          obtain ⟨text, htext⟩ := fillJumps_of_lacks (hlacks name _ hname hjumps (by simp))
          simp only [resolveChain, hname, hjumps, htext]
          rfl

/-- A target has no other route. -/
theorem IsRoute.unique {route route' : List Hop} (h : IsRoute profiles book target route)
    (h' : IsRoute profiles book target route') : route = route' :=
  Except.ok.inj (h.routeOf_resolveChain.symm.trans h'.routeOf_resolveChain)

/-- A resolver that finds no hops leaves the target. -/
theorem routeOf_eq_cons {found : Except ConnectError (List Hop)}
    (h : routeOf target found = .ok hops) : ∃ hop rest, hops = hop :: rest := by
  unfold routeOf at h
  split at h <;> first | exact ⟨_, _, (Except.ok.inj h).symm⟩ | cases h
  rename_i hne
  exact List.exists_cons_of_ne_nil hne

/-- Without a profile the route is the target, which the connector knows without a resolver. -/
theorem IsRoute.eq_of_direct {route : List Hop} (h : IsRoute profiles book target route)
    (hdirect : target.proxyJump = none) : route = [target.host] := by
  cases h with
  | chain name _ _ hname => simp [hdirect] at hname
  | direct => rfl

theorem IsRoute.ne_nil {route : List Hop} (h : IsRoute profiles book target route) : route ≠ [] := by
  cases h <;> simp

end Multiplexer
