import Mathlib.Data.Finset.Basic
import Tunables.Proofs.Partition
import Tunables.Proofs.Service.SingleFlight

/-!
# Replaying updates

Each commit is told to every active subscriber once, as the difference between the
names that were published before and those that are published after it.  Somebody
who keeps all updates can therefore follow the published names.
-/

namespace Tunables

/-- The names after an update. -/
def Update.apply (update : Update) (names : Finset Text) : Finset Text :=
  (names \ update.removed.toFinset) ∪ update.added.toFinset

/-- The names after updates, one after the other. -/
def replay (updates : List Update) (names : Finset Text) : Finset Text :=
  updates.foldl (fun names update => update.apply names) names

/-- The names that a store publishes. -/
def Store.nameSet (store : Store) : Finset Text :=
  store.current.names.toFinset

/-- What a cycle reports is the difference between its catalogs. -/
theorem Cycle.names_eq_of_endsWith {previous : Catalog} {limit : Timeout}
    {exchanges : List Exchange} {result : CycleResult}
    (ends : (Cycle.talk previous limit).EndsWith exchanges (.ok result)) :
    result.catalog.names.toFinset =
      (previous.names.toFinset \ result.report.removed.toFinset) ∪
        result.report.added.toFinset := by
  obtain ⟨listing, names, answers, -, -, -, rfl⟩ := Cycle.endsWith_talk_ok_iff.mp ends
  ext name
  simp only [List.mem_toFinset, Finset.mem_union, Finset.mem_sdiff]
  rw [Cycle.mem_names_resultOf, Cycle.mem_removed_resultOf]
  constructor
  · intro named
    rcases named with ⟨listed, known⟩ | added
    · exact .inl ⟨known, fun removed => removed.2 listed⟩
    · exact .inr added
  · intro named
    rcases named with ⟨known, kept⟩ | added
    · left
      by_cases listed : name ∈ names
      · exact ⟨listed, known⟩
      · exact absurd ⟨known, listed⟩ kept
    · exact .inr added

/-- Updates lead from one published store to another: they carry the versions in
between in order, their differences add up, and the last one is about the store
that they lead to. -/
structure LeadTo (before : Store) (updates : List Update) (after : Store) : Prop where
  versions : updates.map (·.version) = List.range' (before.version + 1) updates.length
  version : after.version = before.version + updates.length
  names : replay updates before.nameSet = after.nameSet
  last : ∀ update, updates.getLast? = some update →
    update.version = after.metadata.version ∧ update.checksum = after.metadata.checksum

namespace LeadTo

variable {before after next : Store} {updates : List Update} {result : CycleResult}

theorem nil (store : Store) : LeadTo store [] store :=
  ⟨rfl, rfl, rfl, nofun⟩

/-- The guard does not matter. -/
theorem keep (leads : LeadTo before updates after) (same : next.snapshot = after.snapshot) :
    LeadTo before updates next := by
  have metadata : next.metadata = after.metadata := congrArg Snapshot.metadata same
  have names : next.nameSet = after.nameSet :=
    congrArg (fun snapshot => snapshot.catalog.names.toFinset) same
  constructor
  · exact leads.versions
  · exact (congrArg Metadata.version metadata).trans leads.version
  · exact leads.names.trans names.symm
  · rw [metadata]
    exact leads.last

/-- A commit is one update more. -/
theorem commit {limit : Timeout} {exchanges : List Exchange}
    (leads : LeadTo before updates after)
    (ends : (Cycle.talk after.current limit).EndsWith exchanges (.ok result)) :
    LeadTo before
      (updates ++ [.of (.of result.catalog (after.version + 1) .cluster) result.report])
      ⟨.of result.catalog (after.version + 1) .cluster, false⟩ := by
  constructor
  · have newest : after.version + 1 = before.version + 1 + 1 * updates.length := by
      rw [leads.version]
      omega
    rw [List.map_append, leads.versions, List.length_append, List.length_singleton,
      List.range'_concat, ← newest]
    rfl
  · rw [List.length_append, List.length_singleton, ← Nat.add_assoc, ← leads.version]
    rfl
  · rw [replay, List.foldl_append]
    change Update.apply _ (replay updates before.nameSet) = _
    rw [leads.names]
    exact (Cycle.names_eq_of_endsWith ends).symm
  · intro update isLast
    rw [List.getLast?_concat] at isLast
    cases isLast
    exact ⟨rfl, rfl⟩

end LeadTo

namespace Service

/-- What an event does to the store in use and to the subscribers: the published
snapshot stays, or the result of a cycle on it is committed and told. -/
inductive Effect (earlier : List Store) (store : Store) (subscribers : List Subscriber)
    (t : Service) : Prop where
  | keeps (after : Store) (stores : t.stores = earlier ++ [after])
      (same : after.snapshot = store.snapshot)
      (untold : t.subscribers = subscribers)
  | commits (result : CycleResult) (limit : Timeout) (exchanges : List Exchange)
      (ends : (Cycle.talk store.current limit).EndsWith exchanges (.ok result))
      (stores : t.stores =
        earlier ++ [⟨.of result.catalog (store.version + 1) .cluster, false⟩])
      (told : t.subscribers =
        Board.told (.of (.of result.catalog (store.version + 1) .cluster) result.report)
          subscribers)

variable {s t : Service} {now : Moment} {event : Event} {earlier : List Store} {store : Store}
  {subscribers : List Subscriber}

theorem Attempt.Handled.effect {attempt : Attempt} {past : List Exchange}
    (handled : attempt.Handled now past subscribers t)
    (same : attempt.store.snapshot = store.snapshot) :
    Effect attempt.earlier store subscribers t := by
  have version : attempt.store.version = store.version :=
    congrArg (fun snapshot => snapshot.metadata.version) same
  have current : attempt.store.current = store.current := congrArg Snapshot.catalog same
  cases handled with
  | waits waiting => exact .keeps attempt.held waiting.stores same waiting.subscribers
  | raises base error cause stores lastReport untold inside next =>
      exact .keeps attempt.store stores same untold
  | reports base result ends stores lastReport told inside next =>
      rw [Attempt.talk, current] at ends
      rw [Attempt.committed, version] at stores
      rw [Attempt.update, version] at told
      exact .commits result attempt.limit past ends stores told

theorem step_effect (reachable : s.Reachable) (published : s.IsPublished)
    (stores : s.stores = earlier ++ [store]) (now : Moment) (event : Event) :
    Effect earlier store (event.subscribers s.subscribers) (s.step now event) := by
  cases step_move s now event with
  | quiet unanswered board =>
      refine .keeps store ?_ rfl (congrArg Board.subscribers board)
      exact (congrArg Board.stores board).trans stores
  | reads start unpublished file board =>
      exact absurd unpublished published.published
  | stopsReading other reading board =>
      exact absurd reading (published.settled other)
  | publishes other catalog opening free board =>
      exact absurd opening (published.not_isOpening other)
  | begins r id purpose limit inUse untold board free inside isInUse isFree next =>
      rcases board with same | ⟨opening, -⟩
      · have sameStores : r.stores = earlier ++ [store] := (congrArg Board.stores same).trans stores
        have sameSubscribers : r.subscribers = s.subscribers := congrArg Board.subscribers same
        cases (store?_of_stores sameStores).symm.trans isInUse
        let attempt : Attempt :=
          ⟨id, purpose, r.cycles + 1, limit, earlier, store, r.lastReport, isFree⟩
        have handled := (handled_beginCycle attempt now sameStores rfl rfl inside).1
        rw [next, untold, ← sameSubscribers]
        exact handled.effect rfl
      · exact absurd opening (published.not_isOpening id)
  | goesOn r id frame command resume answer waiting answered board inside next =>
      obtain ⟨held, past, present, refreshing, reaches⟩ :=
        reachable.guarded.working id frame _ waiting
      have place := published.frame_store stores waiting
      change s.stores[frame.store]? = some held at present
      rw [place, stores, List.getElem?_concat_length] at present
      cases present
      let attempt : Attempt := ⟨id, frame.purpose, frame.number, frame.limit, earlier,
        { store with refreshing := false }, s.lastReport, rfl⟩
      have isHeld : attempt.held = store := by
        change Store.mk store.snapshot true = store
        rw [← refreshing]
      rw [next, subscribers_of_exchange? answered]
      have handled : attempt.Handled now (past ++ [⟨command, answer⟩]) s.subscribers
          (r.proceed now attempt.id frame (resume answer)) := by
        refine handled_proceed now ?_ ?_ ?_ inside place rfl rfl (reaches.answer answer)
        · rw [isHeld]
          exact (congrArg Board.stores board).trans stores
        · exact congrArg Board.lastReport board
        · exact congrArg Board.subscribers board
      exact handled.effect rfl

/-! ## One subscriber -/

variable {q : Nat} {updates : List Update}

/-- Other subscriptions do not concern a subscriber. -/
theorem Event.getElem?_subscribers {subscriber : Subscriber}
    (present : subscribers[q]? = some subscriber) (undrained : event ≠ .drain q)
    (kept : event ≠ .unsubscribe q ∨ subscriber.active = false) :
    (event.subscribers subscribers)[q]? = some subscriber := by
  have inside : q < subscribers.length := (List.getElem?_eq_some_iff.mp present).1
  cases event with
  | subscribe => exact (List.getElem?_append_left inside).trans present
  | unsubscribe other =>
      by_cases same : other = q
      · subst same
        have inactive : subscriber.active = false := kept.resolve_left fun different => different rfl
        obtain ⟨active, updates⟩ := subscriber
        cases inactive
        change (subscribers.modify other _)[other]? = _
        rw [List.getElem?_modify_eq, present]
        rfl
      · exact (List.getElem?_modify_ne _ _ same).trans present
  | drain other =>
      have different : ¬ other = q := fun same => undrained (congrArg Event.drain same)
      exact (List.getElem?_modify_ne _ _ different).trans present
  | _ => exact present

theorem getElem?_told {subscriber : Subscriber} (update : Update)
    (present : subscribers[q]? = some subscriber) :
    (Board.told update subscribers)[q]? =
      some (if subscriber.active then
        { subscriber with updates := subscriber.updates ++ [update] } else subscriber) := by
  rw [Board.told, List.getElem?_map, present, Option.map_some]

/-- After it has unsubscribed a subscriber is told nothing more. -/
theorem unsubscribed_after (reachable : s.Reachable) (published : s.IsPublished)
    (present : s.subscribers[q]? = some ⟨false, updates⟩) (events : List (Moment × Event))
    (undrained : ∀ event ∈ events, event.2 ≠ .drain q) :
    (s.after events).subscribers[q]? = some ⟨false, updates⟩ := by
  induction events generalizing s with
  | nil => exact present
  | cons first later ih =>
      obtain ⟨now, event⟩ := first
      obtain ⟨earlier, store, stores⟩ := published.exists_store
      have stays : (event.subscribers s.subscribers)[q]? = some ⟨false, updates⟩ :=
        Event.getElem?_subscribers present (undrained _ List.mem_cons_self) (.inr rfl)
      have next : (s.step now event).subscribers[q]? = some ⟨false, updates⟩ := by
        cases step_effect reachable published stores now event with
        | keeps after stores same untold =>
            rw [untold]
            exact stays
        | commits result limit exchanges ends stores told =>
            rw [told, getElem?_told _ stays]
            rfl
      exact ih (.step now event reachable) (published.step reachable now event) next
        fun event member => undrained event (List.mem_cons_of_mem _ member)

/-- What the metadata of the store in use are. -/
def metadata? (s : Service) : Option Metadata :=
  s.store?.map (·.metadata)

/-- The metadata of the commits that are made while events happen: those of the
store in use, each time that its version has changed. -/
def commits (s : Service) : List (Moment × Event) → List Metadata
  | [] => []
  | (now, event) :: later =>
      let t := s.step now event
      let new := if t.metadata?.map (·.version) = s.metadata?.map (·.version) then none
        else t.metadata?
      new.toList ++ t.commits later

theorem metadata?_eq (stores : s.stores = earlier ++ [store]) :
    s.metadata? = some store.metadata := by
  rw [metadata?, store?_of_stores stores, Option.map_some]

/-- A subscriber that keeps its updates has one for each commit, and they lead to
the store in use. -/
theorem subscribed_after {before : Store} (reachable : s.Reachable) (published : s.IsPublished)
    (stores : s.stores = earlier ++ [store]) (present : s.subscribers[q]? = some ⟨true, updates⟩)
    (leads : LeadTo before updates store) (events : List (Moment × Event))
    (kept : ∀ event ∈ events, event.2 ≠ .drain q ∧ event.2 ≠ .unsubscribe q) :
    ∃ after new, (s.after events).stores = earlier ++ [after] ∧
      (s.after events).subscribers[q]? = some ⟨true, updates ++ new⟩ ∧
      LeadTo before (updates ++ new) after ∧
      new.map (fun update => (update.version, update.checksum)) =
        (s.commits events).map fun metadata => (metadata.version, metadata.checksum) := by
  induction events generalizing s store updates with
  | nil =>
      refine ⟨store, [], stores, ?_, ?_, rfl⟩
      · rw [List.append_nil]
        exact present
      · rw [List.append_nil]
        exact leads
  | cons first later ih =>
      obtain ⟨now, event⟩ := first
      obtain ⟨undrained, subscribed⟩ := kept (now, event) List.mem_cons_self
      have stays : (event.subscribers s.subscribers)[q]? = some ⟨true, updates⟩ :=
        Event.getElem?_subscribers present undrained (.inl subscribed)
      have nextReachable : (s.step now event).Reachable := .step now event reachable
      have nextPublished := published.step reachable now event
      have laterKept : ∀ event ∈ later, event.2 ≠ .drain q ∧ event.2 ≠ .unsubscribe q :=
        fun event member => kept event (List.mem_cons_of_mem _ member)
      rw [after_cons, commits, metadata?_eq stores]
      cases step_effect reachable published stores now event with
      | keeps after nextStores same untold =>
          have metadata : after.metadata = store.metadata := congrArg Snapshot.metadata same
          have nextPresent : (s.step now event).subscribers[q]? = some ⟨true, updates⟩ := by
            rw [untold]
            exact stays
          rw [metadata?_eq nextStores, metadata, if_pos rfl, Option.toList_none, List.nil_append]
          exact ih nextReachable nextPublished nextStores nextPresent (leads.keep same) laterKept
      | commits result limit exchanges ends nextStores told =>
          let committed : Store := ⟨.of result.catalog (store.version + 1) .cluster, false⟩
          let update : Update := .of committed.metadata result.report
          have nextPresent :
              (s.step now event).subscribers[q]? = some ⟨true, updates ++ [update]⟩ := by
            rw [told, getElem?_told _ stays]
            rfl
          obtain ⟨after, new, lastStores, lastPresent, lastLeads, matching⟩ :=
            ih nextReachable nextPublished nextStores nextPresent (leads.commit ends) laterKept
          have changed : ¬ (some committed.metadata).map (·.version) =
              (some store.metadata).map (·.version) := by
            intro same
            have versions : store.version + 1 = store.version := Option.some.inj same
            omega
          rw [metadata?_eq nextStores, if_neg changed]
          refine ⟨after, update :: new, lastStores, ?_, ?_, ?_⟩
          · rw [lastPresent, List.append_assoc]
            rfl
          · rw [List.append_assoc] at lastLeads
            exact lastLeads
          · rw [List.map_cons, matching]
            rfl

/-- A subscriber that neither takes its updates nor unsubscribes has one for each
commit that was made since, in order.  Replaying them over the names that were
published when it subscribed gives those that are published now, and the last one
is about the published snapshot.  After it has unsubscribed it is told nothing
more. -/
theorem replay_subscription (reachable : s.Reachable) (published : s.IsPublished) (now : Moment)
    (events : List (Moment × Event))
    (kept : ∀ event ∈ events, event.2 ≠ .drain s.subscribers.length ∧
      event.2 ≠ .unsubscribe s.subscribers.length) :
    ∃ before after updates, s.store? = some before ∧
      ((s.step now .subscribe).after events).store? = some after ∧
      ((s.step now .subscribe).after events).subscribers[s.subscribers.length]? =
        some ⟨true, updates⟩ ∧
      updates.map (fun update => (update.version, update.checksum)) =
        ((s.step now .subscribe).commits events).map
          (fun metadata => (metadata.version, metadata.checksum)) ∧
      LeadTo before updates after ∧
      ∀ later afterwards, (∀ event ∈ afterwards, event.2 ≠ .drain s.subscribers.length) →
        ((((s.step now .subscribe).after events).step later
          (.unsubscribe s.subscribers.length)).after afterwards).subscribers[
            s.subscribers.length]? = some ⟨false, updates⟩ := by
  obtain ⟨earlier, before, stores⟩ := published.exists_store
  have subscribedReachable : (s.step now .subscribe).Reachable := .step now .subscribe reachable
  have subscribedPublished := published.step reachable now .subscribe
  have subscribedStores : (s.step now .subscribe).stores = earlier ++ [before] := stores
  have subscribed : (s.step now .subscribe).subscribers[s.subscribers.length]? =
      some ⟨true, []⟩ := List.getElem?_concat_length
  obtain ⟨after, updates, afterStores, present, leads, matching⟩ := subscribed_after
    subscribedReachable subscribedPublished subscribedStores subscribed (.nil before) events kept
  rw [List.nil_append] at present leads
  refine ⟨before, after, updates, store?_of_stores stores, store?_of_stores afterStores, present,
    matching, leads, ?_⟩
  intro later afterwards undrained
  have lastReachable := subscribedReachable.after events
  have lastPublished := subscribedPublished.after subscribedReachable events
  refine unsubscribed_after (.step later _ lastReachable)
    (lastPublished.step lastReachable later _) ?_ afterwards undrained
  change (List.modify _ _ _)[_]? = _
  rw [List.getElem?_modify_eq, present]
  rfl

/-- While there is a subscriber, a service that serves its first catalog only is
asked for a cycle, and the cluster then lists no parameters. -/
theorem replay_subscription_baseline :
    let settings := { Settings.standard with skipClusterUpdate := true }
    let catalog : Catalog := ⟨[.named "b"], by decide⟩
    let s := (create settings .empty (.catalog catalog) (some (.script .empty))).step 0 .start
    let events := [(2, Event.reconcile none), (3, Event.answered 1 (.ok [91, 93]) [])]
    s.Reachable ∧ s.IsPublished ∧
      (∀ event ∈ events, event.2 ≠ .drain s.subscribers.length ∧
        event.2 ≠ .unsubscribe s.subscribers.length) ∧
      ∃ update, ((s.step 1 .subscribe).after events).subscribers[0]? = some ⟨true, [update]⟩ ∧
        update.version = 2 ∧ update.apply {("b" : Text)} = ∅ := by
  intro settings catalog s events
  have reachable : s.Reachable := .step 0 .start (.create settings .empty _ _)
  have published : s.IsPublished := isPublished_start settings .empty _ _ 0
  have kept : ∀ event ∈ events, event.2 ≠ .drain s.subscribers.length ∧
      event.2 ≠ .unsubscribe s.subscribers.length := by
    intro event member
    rcases List.mem_pair.mp member with rfl | rfl
    · exact ⟨nofun, nofun⟩
    · exact ⟨nofun, nofun⟩
  refine ⟨reachable, published, kept, ?_⟩
  obtain ⟨before, after, updates, inUse, thenInUse, present, -, leads, -⟩ :=
    replay_subscription reachable published 1 events kept
  -- The cycle is committed, so the version is the second one.
  have found : Store.ofCatalog catalog .baseline = before := Option.some.inj inUse
  subst found
  let result := Cycle.resultOf catalog [] fun _ => .error .deadline
  have committed : after = ⟨.of result.catalog 2 .cluster, false⟩ := by
    let r := s.step 1 .subscribe
    have thenReachable : r.Reachable := .step 1 .subscribe reachable
    have thenPublished := published.step reachable 1 .subscribe
    have calls : r.Calls (.reconcile none) 1 .request r.addCall := .request none
    obtain ⟨limit, handled, -⟩ := calls.attempts (List.nil_append _).symm rfl 2
    have waiting := handled.waits_of_isUnderWay ⟨_, _, rfl, rfl⟩
    have next := waiting.step (.step 2 _ thenReachable) (thenPublished.step thenReachable 2 _) 3
      (.answered 1 (.ok [91, 93]) [])
    have reported := next.reports_of_endsWith (Cycle.endsWith_talk_of_listed_nil
      Cycle.namesOfReply_brackets fun _ => .error .deadline)
    exact Option.some.inj (thenInUse.symm.trans (store?_of_stores reported.1))
  subst committed
  have one : 2 = 1 + updates.length := leads.version
  obtain ⟨update, rfl⟩ := List.length_eq_one_iff.mp (by omega : updates.length = 1)
  refine ⟨update, present, (leads.last update rfl).1, ?_⟩
  have before : (Store.ofCatalog catalog .baseline).nameSet = {("b" : Text)} := rfl
  have after : result.catalog.names = [] := Cycle.names_resultOf_nil
  have names := leads.names
  rw [before] at names
  refine names.trans ?_
  change result.catalog.names.toFinset = ∅
  rw [after]
  rfl

end Service
end Tunables
