import ActorRegistry.Client

/-! One `RegistryClient` and `run_registry`, joined by the ZeroMQ link between the client's REQ
socket and the loop's REP socket. The client's threads step as in `ClientSocket`; a request
`send_json` puts on the wire waits until the loop handles it. The loop takes the requests of
different sockets in any order (a REP socket queues each connection apart) and sends each reply
back to the socket its request came from, where it is lost if `close()` has dropped that socket.
Everything else that moves the dicts, other managers' requests and the monitor, is one step that
may leave them in any state; it lands between two passes of the loop, each taken whole. -/
namespace ActorRegistry

/-- The loop's handling of one of this client's requests: the request, the dicts before and
after, the clock reading, and the reply. -/
structure Handling (T : Type) where
  request : Json
  before : GlobalRegistry Key Json T
  now : T
  after : GlobalRegistry Key Json T
  reply : Reply Json Json

/-- A client, the registry loop and the wire: `gen` counts the sockets `close()` dropped, `queue`
holds the unhandled requests with their socket, `outbox` the reply no `recv_json()` took, and
the ghosts `handled` and `sentAt` the handlings so far and their count at the last send. -/
structure Link (Th T : Type) where
  client : ClientState Th
  reg : GlobalRegistry Key Json T
  gen : Nat
  queue : List (Nat × Json)
  outbox : Option (Reply Json Json)
  handled : List (Handling T)
  sentAt : Nat

/-- One step of the client, of the loop (handling the request of socket `g`), or of the rest of
the registry's users, who leave the dicts as `s`. -/
inductive LinkEvent (Th T : Type)
  | call (th : Th) (r : Request String String)
  | send (th : Th)
  | recv (th : Th) (timedOut : Bool)
  | close
  | serve (g : Nat) (now : T)
  | others (s : GlobalRegistry Key Json T)

def IsRequest (msg : Json) : Prop := ∃ r : Request String String, msg = r.toDict Json.str Json.str

variable {T : Type} [LinearOrderedCommRing T]

theorem runRegistryIteration_typed {msg : Json} (h : IsRequest msg) (s : GlobalRegistry Key Json T)
    (now : T) : ∃ s' rep, runRegistryIteration s now (.ok msg) = .ok (s', .message rep) := by
  obtain ⟨r, rfl⟩ := h
  obtain ⟨rep, he, -⟩ := @runRegistryIteration_handle T _ s now r.toKeyed
  rw [Request.toDict_toKeyed] at he
  exact ⟨_, rep, he⟩

theorem serverStep_of_runRegistryIteration {r : Request String String} {now : T}
    {s s' : GlobalRegistry Key Json T} {rep : Reply Json Json}
    (h : runRegistryIteration s now (.ok (r.toDict Json.str Json.str)) = .ok (s', .message rep)) :
    serverStep s (.request .runRegistry r now) = (s', [.message rep]) := by
  simp only [serverStep, h]

section Queue
variable {l : List (Nat × Json)} {g : Nat} {msg : Json}

theorem mem_of_lookup (h : l.lookup g = some msg) : (g, msg) ∈ l := by
  obtain ⟨l₁, l₂, rfl, -⟩ := List.lookup_eq_some_iff.mp h
  exact List.mem_append_right _ (List.mem_cons_self _ _)

theorem perm_filter_of_lookup (hnd : (l.map Prod.fst).Nodup) (h : l.lookup g = some msg) :
    l.Perm ((g, msg) :: l.filter fun p => p.1 != g) := by
  obtain ⟨l₁, l₂, rfl, -⟩ := List.lookup_eq_some_iff.mp h
  rw [List.map_append, List.map_cons, List.nodup_middle, List.nodup_cons, ← List.map_append] at hnd
  have hkeep : ∀ p ∈ l₁ ++ l₂, (p.1 != g) = true := fun p hp =>
    bne_iff_ne.mpr fun he => hnd.1 (List.mem_map.mpr ⟨p, hp, he⟩)
  rw [List.filter_append, List.filter_cons_of_neg (by simp), ← List.filter_append,
    List.filter_eq_self.mpr hkeep]
  exact List.perm_middle

end Queue

namespace Link
variable {Th : Type}

def initial : Link Th T := ⟨ClientState.initial, .empty, 0, [], none, [], 0⟩

/-- The invariant of every run: each request on the wire is handled or waiting, once; handlings
are passes of the loop; and replies waiting or received answer the request awaiting them. -/
structure Inv (L : Link Th T) : Prop where
  client : L.client.Inv
  wire : L.client.wire.Perm (L.handled.map Handling.request ++ L.queue.map Prod.snd)
  real : ∀ hd ∈ L.handled,
    runRegistryIteration hd.before hd.now (.ok hd.request) = .ok (hd.after, .message hd.reply)
  typedQueue : ∀ p ∈ L.queue, IsRequest p.2
  typedPc : ∀ th msg, L.client.pc th = .locked msg → IsRequest msg
  sockets : (L.queue.map Prod.fst).Nodup ∧ ∀ p ∈ L.queue, p.1 ≤ L.gen
  current : ∀ p ∈ L.queue, p.1 = L.gen → L.client.socket = .awaiting p.2 ∧ L.outbox = none
  sentAt_le : L.sentAt ≤ L.handled.length
  outbox : ∀ rep, L.outbox = some rep →
    ∃ hd ∈ L.handled.drop L.sentAt, hd.reply = rep ∧ L.client.socket = .awaiting hd.request
  answered : ∀ x ∈ L.client.log, ∀ j, x.2.2 = .reply j →
    ∃ hd ∈ L.handled, hd.request = x.2.1 ∧ j = hd.reply.toJson

theorem Inv.initial : (initial : Link Th T).Inv where
  client := ClientState.Inv.initial
  wire := .nil
  real _ h := by cases h
  typedQueue _ h := by cases h
  typedPc _ _ h := by cases h
  sockets := ⟨.nil, fun _ h => by cases h⟩
  current _ h := by cases h
  sentAt_le := Nat.le_refl 0
  outbox _ h := by cases h
  answered _ h := by cases h

theorem answered_append {L : Link Th T} (h : L.Inv) {x : Th × Json × Outcome} (hx : ∀ j, x.2.2 ≠ .reply j) :
    ∀ y ∈ L.client.log ++ [x], ∀ j, y.2.2 = .reply j →
      ∃ hd ∈ L.handled, hd.request = y.2.1 ∧ j = hd.reply.toJson := by
  intro y hy j hj
  rcases List.mem_append.mp hy with hy | hy
  · exact h.answered y hy j hj
  · rw [List.mem_singleton.mp hy] at hj; exact absurd hj (hx j)

variable [DecidableEq Th]

def step (L : Link Th T) : LinkEvent Th T → Option (Link Th T)
  | .call th r => (L.client.step (.call th (r.toDict Json.str Json.str))).map fun c =>
      { L with client := c }
  | .send th => (L.client.step (.send th)).map fun c =>
      let sent := c.wire.drop L.client.wire.length
      { L with
        client := c
        queue := L.queue ++ sent.map (L.gen, ·)
        sentAt := if sent.isEmpty then L.sentAt else L.handled.length }
  | .recv th false => L.outbox.bind fun rep =>
      (L.client.step (.recv th (some rep.toJson))).map fun c => { L with client := c, outbox := none }
  | .recv th true => (L.client.step (.recv th none)).map fun c => { L with client := c }
  | .close => (L.client.step .close).map fun c =>
      { L with client := c, gen := L.gen + 1, outbox := none }
  | .serve g now => (L.queue.lookup g).bind fun msg =>
      match runRegistryIteration L.reg now (.ok msg) with
      | .ok (s', .message rep) => some { L with
          reg := s'
          queue := L.queue.filter fun p => p.1 != g
          outbox := if g = L.gen then some rep else L.outbox
          handled := L.handled ++ [⟨msg, L.reg, now, s', rep⟩] }
      | _ => none
  | .others s => some { L with reg := s }

def exec (L : Link Th T) : List (LinkEvent Th T) → Option (Link Th T)
  | [] => some L
  | ev :: evs => (L.step ev).bind fun L' => L'.exec evs

theorem exec_cons {ev : LinkEvent Th T} {evs : List (LinkEvent Th T)} {L L' : Link Th T} :
    L.exec (ev :: evs) = some L' ↔ ∃ L₁, L.step ev = some L₁ ∧ L₁.exec evs = some L' :=
  Option.bind_eq_some

/-! ### The invariant, one event at a time -/

section Steps
variable {L L' : Link Th T} {th : Th}

theorem typedPc_update (h : L.Inv) {p : Pc} (hp : ∀ msg, p = .locked msg → IsRequest msg) :
    ∀ th' msg, Function.update L.client.pc th p th' = .locked msg → IsRequest msg := by
  intro th' msg hl
  by_cases he : th' = th
  · subst he; rw [Function.update_same] at hl; exact hp msg hl
  · rw [Function.update_noteq he] at hl; exact h.typedPc th' msg hl

theorem Inv.call {r : Request String String} (h : L.Inv) (hs : L.step (.call th r) = some L') :
    L'.Inv := by
  obtain ⟨c, hc, rfl⟩ := Option.map_eq_some'.mp hs
  have hinv := h.client.step hc
  obtain ⟨-, rfl⟩ := ClientState.step_call_eq hc
  exact { h with
    client := hinv
    typedPc := typedPc_update h fun _ hl => ⟨r, (Pc.locked.inj hl).symm⟩ }

theorem Inv.send (h : L.Inv) (hs : L.step (.send th) = some L') : L'.Inv := by
  obtain ⟨c, hc, rfl⟩ := Option.map_eq_some'.mp hs
  have hinv := h.client.step hc
  obtain ⟨msg, hpc, ⟨req, -, rfl⟩ | ⟨hnot, rfl⟩⟩ := ClientState.step_send_eq hc
  · -- `EFSM`: the request never leaves the client
    simp only [List.drop_length, List.map_nil, List.append_nil, List.isEmpty_nil, if_true]
    exact { h with
      client := hinv
      typedPc := typedPc_update h fun _ hl => nomatch hl
      answered := answered_append h fun _ => by simp }
  · -- the request goes on the wire, from the present socket
    simp only [List.drop_left, List.map_cons, List.map_nil, List.isEmpty_cons, if_false]
    have hfresh : ∀ p ∈ L.queue, p.1 ≠ L.gen := fun p hp hg => hnot p.2 (h.current p hp hg).1
    have hnone : L.outbox = none := Option.eq_none_iff_forall_not_mem.mpr fun rep ho =>
      let ⟨_, _, _, hsock⟩ := h.outbox rep ho; hnot _ hsock
    refine ⟨hinv, ?_, h.real, ?_, typedPc_update h (fun _ hl => nomatch hl), ⟨?_, ?_⟩, ?_, le_rfl,
      ?_, h.answered⟩
    · simpa only [List.map_append, List.map_cons, List.map_nil, ← List.append_assoc] using
        h.wire.append_right [msg]
    · simpa only [List.mem_append, List.mem_singleton] using
        fun p hp => hp.elim (h.typedQueue p) fun he => he ▸ h.typedPc th msg hpc
    · rw [List.map_append, List.map_singleton, ← List.concat_eq_append]
      exact h.sockets.1.concat fun hg => let ⟨p, hp, he⟩ := List.mem_map.mp hg; hfresh p hp he
    · simpa only [List.mem_append, List.mem_singleton] using
        fun p hp => hp.elim (h.sockets.2 p) fun he => he ▸ le_refl _
    · intro p hp hg
      rcases List.mem_append.mp hp with hp | hp
      · exact absurd hg (hfresh p hp)
      · rw [List.mem_singleton.mp hp]; exact ⟨rfl, hnone⟩
    · intro rep ho; rw [hnone] at ho; cases ho

theorem Inv.recvReply (h : L.Inv) (hs : L.step (.recv th false) = some L') : L'.Inv := by
  obtain ⟨rep, hout, hs⟩ := Option.bind_eq_some.mp hs
  obtain ⟨c, hc, rfl⟩ := Option.map_eq_some'.mp hs
  have hinv := h.client.step hc
  obtain ⟨msg, hpc, rfl⟩ := ClientState.step_recv_some_eq hc
  obtain ⟨hd, hmem, rfl, hsock⟩ := h.outbox rep hout
  have hreq : hd.request = msg := Sock.awaiting.inj (hsock.symm.trans (h.client.pairing th msg hpc))
  refine { h with
    client := hinv
    typedPc := typedPc_update h fun _ hl => nomatch hl
    current := fun p hp hg => absurd (h.current p hp hg).2 (by rw [hout]; simp)
    outbox := fun _ ho => by cases ho
    answered := fun y hy j hj => ?_ }
  rcases List.mem_append.mp hy with hy | hy
  · exact h.answered y hy j hj
  · rw [List.mem_singleton.mp hy] at hj ⊢
    simp only [Outcome.reply.injEq] at hj
    exact ⟨hd, List.mem_of_mem_drop hmem, hreq, hj.symm⟩

theorem Inv.recvTimeout (h : L.Inv) (hs : L.step (.recv th true) = some L') : L'.Inv := by
  obtain ⟨c, hc, rfl⟩ := Option.map_eq_some'.mp hs
  have hinv := h.client.step hc
  obtain ⟨msg, -, rfl⟩ := ClientState.step_recv_none_eq hc
  exact { h with
    client := hinv
    typedPc := typedPc_update h fun _ hl => nomatch hl
    answered := answered_append h fun _ => by simp }

theorem Inv.close (h : L.Inv) (hs : L.step .close = some L') : L'.Inv := by
  obtain ⟨c, hc, rfl⟩ := Option.map_eq_some'.mp hs
  have hinv := h.client.step hc
  obtain ⟨-, rfl⟩ := ClientState.step_close_eq hc
  exact { h with
    client := hinv
    sockets := ⟨h.sockets.1, fun p hp => Nat.le_succ_of_le (h.sockets.2 p hp)⟩
    current := fun p hp hg => absurd hg (Nat.ne_of_lt (Nat.lt_succ_of_le (h.sockets.2 p hp)))
    outbox := fun _ ho => by cases ho }

theorem Inv.serve {g : Nat} {now : T} (h : L.Inv) (hs : L.step (.serve g now) = some L') :
    L'.Inv := by
  obtain ⟨msg, hlk, hs⟩ := Option.bind_eq_some.mp hs
  split at hs
  case h_1 s' rep hrun =>
    cases hs
    have hmem := mem_of_lookup hlk
    have hsub : ∀ p ∈ L.queue.filter (fun p => p.1 != g), p ∈ L.queue ∧ p.1 ≠ g := fun p hp => by
      simpa only [List.mem_filter, bne_iff_ne, ne_eq] using hp
    refine ⟨h.client, ?_, ?_, fun p hp => h.typedQueue p (hsub p hp).1, h.typedPc,
      ⟨((List.filter_sublist _).map Prod.fst).nodup h.sockets.1, fun p hp => h.sockets.2 p (hsub p hp).1⟩,
      ?_, ?_, ?_, ?_⟩
    · -- the request moves from the queue to the handled ones
      refine h.wire.trans ?_
      simp only [List.map_append, List.map_cons, List.map_nil, List.append_assoc, List.singleton_append]
      exact ((perm_filter_of_lookup h.sockets.1 hlk).map Prod.snd).append_left _
    · intro hd hd_mem
      rcases List.mem_append.mp hd_mem with hd_mem | hd_mem
      · exact h.real hd hd_mem
      · rw [List.mem_singleton.mp hd_mem]; exact hrun
    · intro p hp hg
      obtain ⟨hp, hpg⟩ := hsub p hp
      obtain ⟨hsock, hnone⟩ := h.current p hp hg
      refine ⟨hsock, ?_⟩
      dsimp only
      rw [if_neg fun he => hpg (hg.trans he.symm), hnone]
    · rw [List.length_append]; exact h.sentAt_le.trans (Nat.le_add_right _ _)
    · intro rep' ho
      dsimp only at ho ⊢
      rw [List.drop_append_of_le_length h.sentAt_le]
      split_ifs at ho with hg
      · cases ho
        exact ⟨_, List.mem_append_right _ (List.mem_singleton_self _), rfl, (h.current _ hmem hg).1⟩
      · obtain ⟨hd, hmem', hrep, hsock⟩ := h.outbox rep' ho
        exact ⟨hd, List.mem_append_left _ hmem', hrep, hsock⟩
    · intro x hx j hj
      obtain ⟨hd, hmem', hreq, hj'⟩ := h.answered x hx j hj
      exact ⟨hd, List.mem_append_left _ hmem', hreq, hj'⟩
  all_goals cases hs

theorem Inv.step {ev : LinkEvent Th T} (h : L.Inv) (hs : L.step ev = some L') : L'.Inv := by
  cases ev with
  | call th r => exact h.call hs
  | send th => exact h.send hs
  | recv th timedOut =>
    cases timedOut
    · exact h.recvReply hs
    · exact h.recvTimeout hs
  | close => exact h.close hs
  | serve g now => exact h.serve hs
  | others s =>
    cases hs
    exact ⟨h.client, h.wire, h.real, h.typedQueue, h.typedPc, h.sockets, h.current, h.sentAt_le,
      h.outbox, h.answered⟩

theorem Inv.exec {evs : List (LinkEvent Th T)} (h : L.Inv) (he : L.exec evs = some L') : L'.Inv := by
  induction evs generalizing L with
  | nil => cases he; exact h
  | cons ev evs ih =>
    obtain ⟨L₁, h₁, he⟩ := exec_cons.mp he
    exact ih (h.step h₁) he

theorem Inv.serve_enabled (h : L.Inv) {p : Nat × Json} (hp : p ∈ L.queue) (now : T) :
    ∃ L', L.step (.serve p.1 now) = some L' := by
  obtain ⟨msg, hlk⟩ := Option.isSome_iff_exists.mp
    (List.lookup_isSome_iff.mpr ⟨p, hp, beq_self_eq_true _⟩)
  obtain ⟨s', rep, hrun⟩ := runRegistryIteration_typed (h.typedQueue _ (mem_of_lookup hlk)) L.reg now
  dsimp only at hrun
  simp only [Link.step, hlk, Option.some_bind, hrun, Option.some.injEq, exists_eq']

end Steps

/-! ### A call in flight -/

/-- Where a thread stands between entering `_send_recv` with `msg` and returning: not yet sent,
with `k` handlings behind; sent after the `k`-th handling; or out after `EFSM`. -/
def Pending (th : Th) (msg : Json) (k : Nat) (L : Link Th T) : Prop :=
  (L.client.pc th = .locked msg ∧ k ≤ L.handled.length) ∨
    (L.client.pc th = .sent msg ∧ k ≤ L.sentAt) ∨ L.client.pc th = .idle

section Pending
variable {L L' : Link Th T} {th : Th} {msg : Json} {k : Nat}

theorem Pending.step {ev : LinkEvent Th T} (hp : Pending th msg k L) (h : L.Inv)
    (hs : L.step ev = some L') (hcall : ∀ r, ev ≠ .call th r) (hrecv : ∀ b, ev ≠ .recv th b) :
    Pending th msg k L' := by
  cases ev with
  | call th' r =>
    obtain ⟨c, hc, rfl⟩ := Option.map_eq_some'.mp hs
    obtain ⟨-, rfl⟩ := ClientState.step_call_eq hc
    have hne : th ≠ th' := fun he => hcall r (he ▸ rfl)
    simpa only [Pending, Function.update_noteq hne] using hp
  | send th' =>
    obtain ⟨c, hc, rfl⟩ := Option.map_eq_some'.mp hs
    obtain ⟨msg', hpc, ⟨req, -, rfl⟩ | ⟨-, rfl⟩⟩ := ClientState.step_send_eq hc
    · simp only [Pending, List.drop_length, List.map_nil, List.append_nil, List.isEmpty_nil,
        if_true]
      by_cases he : th = th'
      · subst he; exact .inr (.inr (Function.update_same _ _ _))
      · simpa only [Function.update_noteq he] using hp
    · simp only [Pending, List.drop_left, List.map_cons, List.map_nil, List.isEmpty_cons,
        if_false]
      by_cases he : th = th'
      · subst he
        rw [Function.update_same]
        rcases hp with ⟨hl, hk⟩ | ⟨hl, -⟩ | hl <;> rw [hpc] at hl <;> cases hl
        exact .inr (.inl ⟨rfl, hk⟩)
      · rw [Function.update_noteq he]
        exact hp.imp_right (Or.imp_left fun ⟨hl, hk⟩ => ⟨hl, hk.trans h.sentAt_le⟩)
  | recv th' b =>
    have hne : th ≠ th' := fun he => hrecv b (he ▸ rfl)
    cases b
    · obtain ⟨rep, -, hs⟩ := Option.bind_eq_some.mp hs
      obtain ⟨c, hc, rfl⟩ := Option.map_eq_some'.mp hs
      obtain ⟨_, -, rfl⟩ := ClientState.step_recv_some_eq hc
      simpa only [Pending, Function.update_noteq hne] using hp
    · obtain ⟨c, hc, rfl⟩ := Option.map_eq_some'.mp hs
      obtain ⟨_, -, rfl⟩ := ClientState.step_recv_none_eq hc
      simpa only [Pending, Function.update_noteq hne] using hp
  | close =>
    obtain ⟨c, hc, rfl⟩ := Option.map_eq_some'.mp hs
    obtain ⟨-, rfl⟩ := ClientState.step_close_eq hc
    exact hp
  | serve g now =>
    obtain ⟨msg', -, hs⟩ := Option.bind_eq_some.mp hs
    split at hs
    · cases hs
      refine hp.imp_left fun ⟨hl, hk⟩ => ⟨hl, ?_⟩
      rw [List.length_append]; exact hk.trans (Nat.le_add_right _ _)
    all_goals cases hs
  | others s => cases hs; exact hp

theorem Pending.exec {evs : List (LinkEvent Th T)} (hp : Pending th msg k L) (h : L.Inv)
    (he : L.exec evs = some L') (hown : ∀ ev ∈ evs, (∀ r, ev ≠ .call th r) ∧ ∀ b, ev ≠ .recv th b) :
    Pending th msg k L' := by
  induction evs generalizing L with
  | nil => cases he; exact hp
  | cons ev evs ih =>
    obtain ⟨L₁, h₁, he⟩ := exec_cons.mp he
    obtain ⟨hcall, hrecv⟩ := hown ev (List.mem_cons_self _ _)
    exact ih (hp.step h h₁ hcall hrecv) (h.step h₁) he fun ev' hev' =>
      hown ev' (List.mem_cons_of_mem _ hev')

end Pending

/-! ### Exactly once, and to the right thread -/

section Runs
variable {L : Link Th T} {evs : List (LinkEvent Th T)}

/-- Under every interleaving, timeout, reconnection and outside write: the requests sent are,
with multiplicity, those handled plus those waiting, each handling a pass of the loop, and each
reply received the loop's answer to that thread's request. -/
theorem requests_handled_once (hL : initial.exec evs = some L) :
    L.client.wire.Perm (L.handled.map Handling.request ++ L.queue.map Prod.snd) ∧
    (∀ hd ∈ L.handled, runRegistryIteration hd.before hd.now (.ok hd.request) =
      .ok (hd.after, .message hd.reply)) ∧
    (∀ th msg j, (th, msg, Outcome.reply j) ∈ L.client.log →
      ∃ hd ∈ L.handled, hd.request = msg ∧ j = hd.reply.toJson) ∧
    ∀ p ∈ L.queue, ∀ now, ∃ L', L.step (.serve p.1 now) = some L' := by
  have h := Inv.initial.exec hL
  exact ⟨h.wire, h.real, fun th msg j hx => h.answered _ hx j rfl, fun p hp => h.serve_enabled hp⟩

/-- A lookup of `a` times out and the client reconnects; its next lookup, of `b`, goes out on
the new socket. The loop answers the first lookup too, but that reply is dropped with the old
socket: the caller receives the answer about `b`. -/
theorem requests_handled_once_reconnect :
    let evs : List (LinkEvent String ℤ) := [.call "main" (.lookupActor "a"), .send "main",
      .recv "main" true, .close, .call "main" (.lookupActor "b"), .send "main", .serve 0 0,
      .serve 1 1, .recv "main" false]
    let L := (initial.exec evs).getD initial
    initial.exec evs = some L ∧ L.queue = [] ∧ L.handled.length = 2 ∧
      L.client.log = [("main", (Request.lookupActor "a").toDict Json.str Json.str, .again),
        ("main", (Request.lookupActor "b").toDict Json.str Json.str,
          .reply (Reply.lookupResult (.str "b") none false).toJson)] ∧
      ∀ th msg j, (th, msg, Outcome.reply j) ∈ L.client.log →
        ∃ hd ∈ L.handled, hd.request = msg ∧ j = hd.reply.toJson := by
  intro evs L
  have hL : initial.exec evs = some L := rfl
  exact ⟨hL, rfl, rfl, rfl, (requests_handled_once hL).2.2.1⟩

/-- A completed call is linearizable: its reply comes from a pass of the loop over the request it
sent, made after the call began. -/
theorem completed_call_linearizable {pre mid : List (LinkEvent Th T)} {L₁ L₂ L₃ L₄ : Link Th T}
    {th : Th} {r : Request String String}
    (h₁ : initial.exec pre = some L₁) (hc : L₁.step (.call th r) = some L₂)
    (hmid : L₂.exec mid = some L₃)
    (hown : ∀ ev ∈ mid, (∀ r', ev ≠ .call th r') ∧ ∀ b, ev ≠ .recv th b)
    (hr : L₃.step (.recv th false) = some L₄) :
    ∃ hd ∈ L₃.handled.drop L₁.handled.length, hd.request = r.toDict Json.str Json.str ∧
      L₄.client.log = L₃.client.log ++ [(th, r.toDict Json.str Json.str, .reply hd.reply.toJson)] := by
  have hI₂ := (Inv.initial.exec h₁).step hc
  have hI₃ := hI₂.exec hmid
  have hp₂ : Pending th (r.toDict Json.str Json.str) L₁.handled.length L₂ := by
    obtain ⟨c, hc', rfl⟩ := Option.map_eq_some'.mp hc
    obtain ⟨-, rfl⟩ := ClientState.step_call_eq hc'
    exact .inl ⟨Function.update_same _ _ _, le_rfl⟩
  obtain ⟨rep, hout, hs⟩ := Option.bind_eq_some.mp hr
  obtain ⟨c, hc', rfl⟩ := Option.map_eq_some'.mp hs
  obtain ⟨msg, hpc, rfl⟩ := ClientState.step_recv_some_eq hc'
  obtain ⟨hl, -⟩ | ⟨hl, hk⟩ | hl := hp₂.exec hI₂ hmid hown <;> rw [hpc] at hl <;> cases hl
  obtain ⟨hd, hmem, rfl, hsock⟩ := hI₃.outbox rep hout
  exact ⟨hd, List.drop_subset_drop_left _ hk hmem,
    Sock.awaiting.inj (hsock.symm.trans (hI₃.client.pairing th _ hpc)), rfl⟩

/-- The heartbeat thread's call has completed; the caller's lookup of `a` then goes out and is
answered by the pass of the loop after it. -/
theorem completed_call_linearizable_lookup :
    let pre : List (LinkEvent String ℤ) := [.call "heartbeat" (.heartbeat "m" 0), .send "heartbeat",
      .serve 0 0, .recv "heartbeat" false]
    let mid : List (LinkEvent String ℤ) := [.send "caller", .serve 0 1]
    let r : Request String String := .lookupActor "a"
    let L₁ := (initial.exec pre).getD initial
    let L₂ := (L₁.step (.call "caller" r)).getD L₁
    let L₃ := (L₂.exec mid).getD L₂
    let L₄ := (L₃.step (.recv "caller" false)).getD L₃
    initial.exec pre = some L₁ ∧ L₁.step (.call "caller" r) = some L₂ ∧ L₂.exec mid = some L₃ ∧
      L₃.step (.recv "caller" false) = some L₄ ∧
      ∃ hd ∈ L₃.handled.drop L₁.handled.length, hd.request = r.toDict Json.str Json.str ∧
        L₄.client.log = L₃.client.log ++
          [("caller", r.toDict Json.str Json.str, .reply hd.reply.toJson)] := by
  intro pre mid r L₁ L₂ L₃ L₄
  have h₁ : initial.exec pre = some L₁ := rfl
  have hc : L₁.step (.call "caller" r) = some L₂ := rfl
  have hmid : L₂.exec mid = some L₃ := rfl
  have hr : L₃.step (.recv "caller" false) = some L₄ := rfl
  have hown : ∀ ev ∈ mid, (∀ r', ev ≠ .call "caller" r') ∧ ∀ b, ev ≠ .recv "caller" b := by
    simp [mid]
  exact ⟨h₁, hc, hmid, hr, completed_call_linearizable h₁ hc hmid hown hr⟩

/-- `register` returns only after a pass over its request added the entry, and raises
`RegistrationFailedError` only after a pass found the name taken; after a timeout, the pass
that refuses a retry may meet the timed-out attempt's entry. -/
theorem register_reply_handled (hL : initial.exec evs = some L) {th : Th} {m n e : String}
    {j : Json} (hx : (th, (Request.registerActor m n e).toDict Json.str Json.str, Outcome.reply j) ∈
      L.client.log) :
    ∃ hd ∈ L.handled, hd.request = (Request.registerActor m n e).toDict Json.str Json.str ∧
      ((RegistryClient.register n (.reply j) = .ok () ∧ Key.str n ∉ hd.before.registry ∧
          hd.after = hd.before.addActor hd.now (.str m) (.str n) (.str e)) ∨
        (RegistryClient.register n (.reply j) =
            .error (.registrationFailed (.str n) (.str "Name already registered")) ∧
          Key.str n ∈ hd.before.registry ∧ hd.after = hd.before)) := by
  have h := Inv.initial.exec hL
  obtain ⟨hd, hmem, hreq, rfl⟩ := h.answered _ hx j rfl
  dsimp only at hreq
  have hrun := h.real hd hmem
  rw [hreq] at hrun
  have hstep := serverStep_of_runRegistryIteration hrun
  refine ⟨hd, hmem, hreq, ?_⟩
  by_cases hn : Key.str n ∈ hd.before.registry
  · have hfail := hstep.symm.trans (serverStep_register_of_mem _ hn)
    simp only [Prod.mk.injEq, List.cons.injEq, LoopReply.message.injEq, and_true] at hfail
    rw [hfail.2, register_registrationFailed]
    exact .inr ⟨rfl, hn, hfail.1⟩
  · have hok := hstep.symm.trans (serverStep_register_of_not_mem _ hn)
    simp only [Prod.mk.injEq, List.cons.injEq, LoopReply.message.injEq, and_true] at hok
    rw [hok.2, register_registrationOk]
    exact .inl ⟨rfl, hn, hok.1⟩

/-- A registration's reply times out; the client reconnects and registers again. The retry is
refused with `RegistrationFailedError`, yet the registry holds the caller's own entry: the loop
handled the first attempt after the caller had given up on it. -/
theorem register_retry_refused :
    let r : Request String String := .registerActor "m" "a" "tcp://h:6000"
    let j : Json := (Reply.registrationFailed (.str "a") "Name already registered").toJson
    let evs : List (LinkEvent String ℤ) := [.call "main" r, .send "main", .recv "main" true,
      .close, .serve 0 0, .call "main" r, .send "main", .serve 1 1, .recv "main" false]
    let L := (initial.exec evs).getD initial
    initial.exec evs = some L ∧ ("main", r.toDict Json.str Json.str, Outcome.reply j) ∈ L.client.log ∧
      RegistryClient.register "a" (.reply j) =
        .error (.registrationFailed (.str "a") (.str "Name already registered")) ∧
      L.reg.registry.lookup (.str "a") = some ⟨.str "tcp://h:6000", .str "m"⟩ ∧
      ∃ hd ∈ L.handled, hd.request = r.toDict Json.str Json.str ∧
        Key.str "a" ∈ hd.before.registry ∧ hd.after = hd.before := by
  intro r j evs L
  have hL : initial.exec evs = some L := rfl
  have hlog : L.client.log = [("main", r.toDict Json.str Json.str, .again),
      ("main", r.toDict Json.str Json.str, .reply j)] := rfl
  have hx : ("main", r.toDict Json.str Json.str, Outcome.reply j) ∈ L.client.log := by
    rw [hlog]; exact List.mem_cons_of_mem _ (List.mem_singleton_self _)
  have hfail := register_registrationFailed "a" "Name already registered"
  obtain ⟨hd, hmem, hreq, ⟨hok, -⟩ | ⟨-, hn, hafter⟩⟩ := register_reply_handled hL hx
  · rw [hfail] at hok; cases hok
  · exact ⟨hL, hx, hfail, rfl, hd, hmem, hreq, hn, hafter⟩

end Runs

end Link

end ActorRegistry
