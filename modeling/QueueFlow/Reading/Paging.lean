import QueueFlow.App.ReadApi
import QueueFlow.Concurrency.Alone
import QueueFlow.Tables.Paging

/-!
# Paging through tickets

`listTickets` orders by `created_at` alone, so tickets created at the same time may change places
between two pages.
-/

namespace QueueFlow.Reading
open QueueFlow.App QueueFlow.Concurrency QueueFlow.Data QueueFlow.Tables QueueFlow.Transactions
open Database (createdOrder)

variable {ι : Type} [DecidableEq ι] {env : Nat → Env} {i : ι} {db : Database} {locationId : UUID}
  {serviceId : Option UUID} {ticketStatus : Option String} {tickets listing : List Ticket}
  {order : UUID → Nat} {n : Nat}

def matching (db : Database) (locationId : UUID) (serviceId : Option UUID)
    (ticketStatus : Option String) : List Ticket :=
  db.tickets.rows.filter fun ticket =>
    ticket.locationId = locationId ∧
      (∀ text ∈ ticketStatus.filter (· ≠ ""), ticket.status.text = text) ∧
      (∀ id ∈ serviceId, ticket.serviceId = some id)

def listingAt (env : Nat → Env) (db : Database) (locationId : UUID) (serviceId : Option UUID)
    (ticketStatus : Option String) (k : Nat) : List Ticket :=
  (matching db locationId serviceId ticketStatus).insertionSort (createdOrder (env k).order)

/-- The answer to the query for page `k`, which is sent at tick `k`. -/
def pageAt (env : Nat → Env) (db : Database) (locationId : UUID) (serviceId : Option UUID)
    (ticketStatus : Option String) (n k : Nat) : List TicketRead :=
  (page n k (listingAt env db locationId serviceId ticketStatus k)).map TicketRead.modelValidate

theorem answers_listTickets (k : Nat) :
    Answers engine env i db (listTickets locationId serviceId ticketStatus n ((k * n : Nat) : Int))
      k (.returned (pageAt env db locationId serviceId ticketStatus n k)) := by
  have positions : Query.fault (.listByLocation locationId (ticketStatus.filter (· ≠ "")) serviceId
      n ((k * n : Nat) : Int)) = none := by
    simp only [Query.fault, Int.natCast_nonneg, not_lt_of_ge, or_self, if_false]
  refine answers_query positions ?_
  simp only [Query.eval, Database.listByLocation, Int.toNat_natCast]
  exact answers_ret _

/-! ## Orders of the database -/

theorem createdOrder_total (order : UUID → Nat) (a b : Ticket) :
    createdOrder order a b ∨ createdOrder order b a := by
  rcases lt_trichotomy a.createdAt b.createdAt with before | same | after
  · exact .inl (.inl before)
  · exact (le_total (order a.id) (order b.id)).imp (fun le => .inr ⟨same, le⟩)
      fun le => .inr ⟨same.symm, le⟩
  · exact .inr (.inl after)

theorem createdOrder_trans {a b c : Ticket} (first : createdOrder order a b)
    (second : createdOrder order b c) : createdOrder order a c := by
  rcases first with before | ⟨same, le⟩ <;> rcases second with before' | ⟨same', le'⟩
  · exact .inl (before.trans before')
  · exact .inl (same' ▸ before)
  · exact .inl (same ▸ before')
  · exact .inr ⟨same.trans same', le.trans le'⟩

theorem createdOrder_sorted (order : UUID → Nat) (tickets : List Ticket) :
    (tickets.insertionSort (createdOrder order)).Pairwise (createdOrder order) := by
  have : Std.Total (createdOrder order) := ⟨createdOrder_total order⟩
  have : IsTrans Ticket (createdOrder order) := ⟨fun _ _ _ => createdOrder_trans⟩
  exact List.pairwise_insertionSort _ _

theorem orderedBy_listing (order : UUID → Nat) (tickets : List Ticket) :
    OrderedBy Ticket.createdAt tickets (tickets.insertionSort (createdOrder order)) := by
  refine ⟨List.perm_insertionSort _ _, (createdOrder_sorted order tickets).imp ?_⟩
  rintro a b (before | ⟨same, _⟩)
  · exact before.le
  · exact same.le

/-- Every order that ORDER BY allows is one that the database may pick. -/
theorem exists_order (distinct : (tickets.map Ticket.id).Nodup)
    (ordered : OrderedBy Ticket.createdAt tickets listing) :
    ∃ order, tickets.insertionSort (createdOrder order) = listing := by
  have nodup : (listing.map Ticket.id).Nodup := (ordered.perm.map _).nodup_iff.mpr distinct
  let order (id : UUID) : Nat := (listing.map Ticket.id).idxOf id
  have ascending : listing.Pairwise fun a b => order a.id ≤ order b.id := by
    refine List.pairwise_iff_getElem.mpr fun p q inside within before => ?_
    have place (p : Nat) (inside : p < listing.length) : order listing[p].id = p := by
      have := nodup.idxOf_getElem p (by simpa)
      rwa [List.getElem_map] at this
    rw [place p inside, place q within]
    exact before.le
  have sorted : listing.Pairwise (createdOrder order) := by
    refine (ordered.sorted.and ascending).imp fun ⟨le, later⟩ => ?_
    exact (lt_or_eq_of_le le).imp_right fun same => ⟨same, later⟩
  refine ⟨order, List.Perm.eq_of_pairwise ?_ (createdOrder_sorted order tickets) sorted
    ((List.perm_insertionSort _ _).trans ordered.perm.symm)⟩
  intro a b left right first second
  have here : a ∈ listing := ordered.perm.mem_iff.mpr ((List.mem_insertionSort _).mp left)
  have same : order a.id = order b.id := by
    rcases first with before | ⟨together, le⟩ <;> rcases second with before' | ⟨together', le'⟩
    · exact (lt_asymm before before').elim
    · exact (before.ne together'.symm).elim
    · exact (before'.ne together.symm).elim
    · exact le.antisymm le'
  have ids : a.id = b.id := (List.idxOf_inj (List.mem_map_of_mem here)).mp same
  exact List.inj_on_of_nodup_map nodup here right ids

/-! ## All pages -/

theorem matching_distinct :
    ((matching db locationId serviceId ticketStatus).map Ticket.id).Nodup :=
  db.tickets.distinct.sublist (List.filter_sublist.map _)

theorem pagedThrough_pageAt :
    PagedThrough ((matching db locationId serviceId ticketStatus).map TicketRead.modelValidate)
        (pageAt env db locationId serviceId ticketStatus n) ↔
      PagedThrough (matching db locationId serviceId ticketStatus) fun k =>
        page n k (listingAt env db locationId serviceId ticketStatus k) := by
  have tickets (reads : List Ticket) :
      (reads.map fun ticket => TicketRead.modelValidate ticket).map TicketRead.ticket = reads := by
    rw [List.map_map]
    exact List.map_id reads
  have pages (last : Nat) :
      (List.range last).flatMap (pageAt env db locationId serviceId ticketStatus n) =
        ((List.range last).flatMap fun k =>
          page n k (listingAt env db locationId serviceId ticketStatus k)).map
            fun ticket => TicketRead.modelValidate ticket := by
    rw [List.map_flatMap]
    rfl
  refine exists_congr fun last => ?_
  rw [pages]
  simp only [pageAt, List.map_eq_nil_iff, ne_eq]
  refine and_congr_right fun _ => and_congr_right fun _ => ⟨fun perm => ?_, fun perm => perm.map _⟩
  simpa only [tickets] using perm.map TicketRead.ticket

/-- The pages list every matching ticket once, in whatever orders they come, exactly when no two
tickets of the same time are on different pages. -/
theorem pages_complete (i : ι) (db : Database) (locationId : UUID) (serviceId : Option UUID)
    (ticketStatus : Option String) (positive : 0 < n) :
    (∀ env k, Answers engine env i db
      (listTickets locationId serviceId ticketStatus n ((k * n : Nat) : Int)) k
      (.returned (pageAt env db locationId serviceId ticketStatus n k))) ∧
    ((∀ env, PagedThrough
        ((matching db locationId serviceId ticketStatus).map TicketRead.modelValidate)
        (pageAt env db locationId serviceId ticketStatus n)) ↔
      ∀ k, CleanCut Ticket.createdAt (matching db locationId serviceId ticketStatus) (k * n)) := by
  refine ⟨fun env k => answers_listTickets k, ?_⟩
  simp only [pagedThrough_pageAt]
  constructor
  · intro complete
    by_contra dirty
    obtain ⟨k, torn⟩ := not_forall.mp dirty
    obtain ⟨listings, ordered, fails⟩ := exists_torn positive matching_distinct.of_map torn
    choose order picked using fun k => exists_order matching_distinct (ordered k)
    have env : PagedThrough _ fun k => page n k (listingAt (fun k => ⟨0, 0, order k, false⟩) db
      locationId serviceId ticketStatus k) := complete _
    simp only [listingAt, picked] at env
    exact fails env
  · exact fun clean env => pagedThrough positive (fun k => orderedBy_listing _ _) clean

theorem pages_complete_crowded :
    (∀ env k, Answers engine env 0 crowdedOffice (listTickets 10 none none 1 ((k * 1 : Nat) : Int))
      k (.returned (pageAt env crowdedOffice 10 none none 1 k))) ∧
    ((∀ env, PagedThrough ((matching crowdedOffice 10 none none).map TicketRead.modelValidate)
        (pageAt env crowdedOffice 10 none none 1)) ↔
      ∀ k, CleanCut Ticket.createdAt (matching crowdedOffice 10 none none) (k * 1)) :=
  pages_complete 0 crowdedOffice 10 none none (by decide)

def twins : Database :=
  office ⟨[waitingTicket 2 1 5, { waitingTicket 3 2 5 with createdAt := 2 }], by decide⟩

/-- A database that turns the order of equal rows around after the first query. -/
def turningEnv (tick : Nat) : Env :=
  { steadyEnv tick with order := fun id => if tick = 0 then id else 10 - id }

/-- The first ticket is on both pages, the second one on none. -/
theorem twins_torn :
    (∀ k, Answers engine turningEnv 0 twins (listTickets 10 none none 1 ((k * 1 : Nat) : Int)) k
      (.returned (pageAt turningEnv twins 10 none none 1 k))) ∧
    ¬ PagedThrough ((matching twins 10 none none).map TicketRead.modelValidate)
      (pageAt turningEnv twins 10 none none 1) := by
  refine ⟨fun k => answers_listTickets k, fun ⟨last, _, _, perm⟩ => ?_⟩
  have second : TicketRead.modelValidate { waitingTicket 3 2 5 with createdAt := 2 } ∈
      (List.range last).flatMap (pageAt turningEnv twins 10 none none 1) :=
    perm.mem_iff.mpr (by decide +kernel)
  obtain ⟨k, _, listed⟩ := List.mem_flatMap.mp second
  rcases k with _ | _ | k
  · exact absurd listed (by decide +kernel)
  · exact absurd listed (by decide +kernel)
  · have beyond : pageAt turningEnv twins 10 none none 1 (k + 1 + 1) = [] := by
      rw [pageAt, List.map_eq_nil_iff, page_eq_nil one_pos, listingAt, List.length_insertionSort]
      have size : (matching twins 10 none none).length = 2 := by decide +kernel
      omega
    rw [beyond] at listed
    cases listed

end QueueFlow.Reading
