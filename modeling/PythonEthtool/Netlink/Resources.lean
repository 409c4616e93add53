import PythonEthtool.Foundations.Ledger
import PythonEthtool.Netlink.Outcomes

namespace PythonEthtool
namespace Netlink

open Foundations
open Python

/-!
# The libnl objects of a query

Each query holds up to two objects of libnl at a time: a cache, and the link
or the address that it looks up or filters with.  They are local to the
query, so all that it acquires it has to release before it returns.  The
lookup of the index does so on each of its paths.  The two queries do not
where an allocation fails after the cache was filled, and the address query
frees a cache that it could not fill.  A query that stops at a fault does not
return: of it only this is asked, that it has released nothing that it had
not acquired.
-/

/-- The objects that are acquired and released, in order. -/
def libnlMovements (log : List QueryEvent) : List (Movement LibnlObject) :=
  log.filterMap (fun event =>
    match event with
    | .libnl (.acquired object) => some (.acquired object)
    | .libnl (.released object) => some (.released object)
    | _ => none)

theorem libnlMovements_append (first second : List QueryEvent) :
    libnlMovements (first ++ second) = libnlMovements first ++ libnlMovements second :=
  List.filterMap_append

/-- The movements of a query by itself, as far as it gets. -/
def Query.movements (text : AddressText) (session : Session) (query : Query) :
    List (Movement LibnlObject) :=
  libnlMovements (sessionOf (query.perform text { session with log := [] })).log

/-- The fault in which a query stops, if it does. -/
def faultOf : Except Stopped Session -> Option Fault
  | .ok _ => none
  | .error stopped => some stopped.fault

/-- The query comes to its end with everything released, or to a fault with
nothing released that it did not have. -/
def Query.Accounted (text : AddressText) (session : Session) (query : Query) : Prop :=
  match faultOf (query.perform text { session with log := [] }) with
  | none => Balanced (query.movements text session)
  | some _ => Covered (query.movements text session)

/-- A query that gets to its dump either finds no links to filter, or
succeeds in every call. -/
def Query.Releases (session : Session) : Query -> Prop
  | .link calls =>
      session.indexFor calls.toOpeningCalls = none ∨ (∃ error, calls.linkCache = .error error) ∨
        calls.linkAlloc = true
  | .address _ calls =>
      session.indexFor calls.toOpeningCalls = none ∨
        ((∃ records, calls.addrCache = .ok records) ∧ calls.addrAlloc = true)

/-! ## The lookup of the index -/

theorem libnlMovements_lookupEvents (self : PyEtherInfo)
    (indexCache : Except String (List RtnlLink)) :
    libnlMovements (lookupEvents self indexCache) = [] := by
  unfold lookupEvents
  split
  · split <;> rfl
  · rfl

/-- An object that is held while the cache is. -/
theorem heldWithCache (object : LibnlObject) :
    Balanced [.acquired .cache, .acquired object, .released object, .released .cache] :=
  (balanced_nil.held object).held .cache

/-- The lookup is balanced on each of its paths. -/
theorem setDeviceIndex_balanced (self : PyEtherInfo)
    (linkCache : Except String (List RtnlLink)) :
    Balanced (libnlMovements ((setDeviceIndex self linkCache).events.map QueryEvent.libnl)) := by
  unfold setDeviceIndex
  split
  · split
    · exact balanced_nil
    · split
      · exact balanced_nil.held LibnlObject.cache
      · exact heldWithCache .link
  · exact balanced_nil

theorem openAndSetIndex_balanced (session : Session) (calls : OpeningCalls) :
    Balanced (libnlMovements (openAndSetIndex { session with log := [] } calls).2.log) := by
  unfold openAndSetIndex
  dsimp only
  split
  · simp only [Session.record, libnlMovements_append, libnlMovements_lookupEvents]
    exact setDeviceIndex_balanced _ calls.indexCache
  · exact balanced_nil

/-- Whatever the log holds, the start succeeds precisely with an index. -/
theorem openAndSetIndex_starts (session : Session) (calls : OpeningCalls) :
    (openAndSetIndex { session with log := [] } calls).1 = (session.indexFor calls).isSome := by
  have indexed : ({ session with log := [] } : Session).indexFor calls =
      session.indexFor calls := rfl
  cases found : session.indexFor calls with
  | none => exact (openAndSetIndex_missing (indexed.trans found)).1
  | some index => exact (openAndSetIndex_found (indexed.trans found)).1

/-! ## The two queries -/

section Queries

variable (text : AddressText) {session : Session} {query : Query}

theorem accounted_ended {after : Session}
    (ended : query.perform text { session with log := [] } = .ok after) :
    query.Accounted text session ↔ Balanced (libnlMovements after.log) := by
  rw [Query.Accounted, Query.movements, ended]
  rfl

theorem accounted_stopped {stopped : Stopped}
    (ended : query.perform text { session with log := [] } = .error stopped) :
    query.Accounted text session ↔ Covered (libnlMovements stopped.session.log) := by
  rw [Query.Accounted, Query.movements, ended]
  rfl

theorem link_accounted_iff {calls : LinkCalls} :
    (Query.link calls).Accounted text session ↔ (Query.link calls).Releases session := by
  have opening := openAndSetIndex_balanced session calls.toOpeningCalls
  have starts := openAndSetIndex_starts session calls.toOpeningCalls
  rw [accounted_ended text rfl]
  simp only [Query.Releases, getEtherinfoLink]
  cases found : session.indexFor calls.toOpeningCalls with
  | none =>
      simp only [starts, found, Option.isSome_none, Bool.false_eq_true, if_false, true_or,
        iff_true]
      exact opening
  | some index =>
      simp only [starts, found, Option.isSome_some, if_true, reduceCtorEq, false_or]
      cases filled : calls.linkCache with
      | error error =>
          simp only [Session.setError, Except.error.injEq, exists_eq', true_or, iff_true]
          exact opening
      | ok links =>
          simp only [reduceCtorEq, exists_false, false_or]
          cases allocated : calls.linkAlloc with
          | true =>
              simp only [if_true, iff_true, Session.record, libnlMovements_append]
              rw [balanced_append_iff opening]
              exact heldWithCache .link
          | false =>
              simp only [Bool.false_eq_true, if_false, iff_false, Session.setError,
                Session.record, libnlMovements_append]
              rw [balanced_append_iff opening]
              exact not_balanced_acquired LibnlObject.cache

/-- A query that walks over its addresses ends with everything released, or
stops with the cache and the filter in its hands. -/
theorem address_walk_accounted {kind : NlQuery} {calls : AddressCalls}
    {records : List (RtnlAddr × Building)}
    (walked : session.addressesFor kind calls = some records) :
    (Query.address kind calls).Accounted text session := by
  have opening := openAndSetIndex_balanced session calls.toOpeningCalls
  have alone : ({ session with log := [] } : Session).addressesFor kind calls = some records :=
    walked
  have performs : (Query.address kind calls).perform text { session with log := [] } = _ :=
    congrArg (Except.map Returned.session) (getEtherinfoAddress_walked text alone)
  cases walk : records.foldlM (callbackNlAddress text)
      { addrlist := [], pending := session.pending } with
  | error fault =>
      rw [walk] at performs
      rw [accounted_stopped text performs]
      simp only [Session.walking, Session.record, libnlMovements_append]
      rw [covered_append_iff opening]
      exact covered_acquired [LibnlObject.cache, LibnlObject.addr]
  | ok last =>
      rw [walk] at performs
      rw [accounted_ended text performs]
      simp only [Session.afterWalk, Session.walking, Session.record, libnlMovements_append,
        List.append_assoc]
      rw [balanced_append_iff opening]
      exact heldWithCache .addr

theorem address_accounted_iff {kind : NlQuery} {calls : AddressCalls} :
    (Query.address kind calls).Accounted text session ↔
      (Query.address kind calls).Releases session := by
  have opening := openAndSetIndex_balanced session calls.toOpeningCalls
  have starts := openAndSetIndex_starts session calls.toOpeningCalls
  simp only [Query.Releases]
  cases found : session.indexFor calls.toOpeningCalls with
  | none =>
      have ends : (Query.address kind calls).perform text { session with log := [] } =
          .ok (openAndSetIndex { session with log := [] } calls.toOpeningCalls).2 := by
        simp only [Query.perform, getEtherinfoAddress, starts, found, Option.isSome_none,
          Bool.false_eq_true, if_false]
        rfl
      rw [accounted_ended text ends]
      simp only [true_or, iff_true]
      exact opening
  | some index =>
      simp only [reduceCtorEq, false_or]
      cases filled : calls.addrCache with
      | error error =>
          have stops : ∃ stopped, (Query.address kind calls).perform text
                { session with log := [] } = .error stopped ∧
              stopped.session.log =
                (openAndSetIndex { session with log := [] } calls.toOpeningCalls).2.log ++
                  [.libnl (.released .cache)] := by
            simp only [Query.perform, getEtherinfoAddress, starts, found, Option.isSome_some,
              if_true, filled]
            exact ⟨_, rfl, rfl⟩
          rcases stops with ⟨stopped, performs, log⟩
          rw [accounted_stopped text performs, log, libnlMovements_append,
            covered_append_iff opening]
          simp only [reduceCtorEq, exists_false, false_and, iff_false]
          exact not_covered_released LibnlObject.cache
      | ok records =>
          simp only [Except.ok.injEq, exists_eq', true_and]
          cases allocated : calls.addrAlloc with
          | false =>
              have ends : ∃ after, (Query.address kind calls).perform text
                    { session with log := [] } = .ok after ∧
                  after.log =
                    (openAndSetIndex { session with log := [] } calls.toOpeningCalls).2.log ++
                      [.libnl (.acquired .cache)] := by
                simp only [Query.perform, getEtherinfoAddress, starts, found, Option.isSome_some,
                  if_true, filled, allocated, Bool.false_eq_true, if_false]
                exact ⟨_, rfl, rfl⟩
              rcases ends with ⟨after, performs, log⟩
              rw [accounted_ended text performs, log, libnlMovements_append,
                balanced_append_iff opening]
              simp only [Bool.false_eq_true, iff_false]
              exact not_balanced_acquired LibnlObject.cache
          | true =>
              simp only [iff_true]
              apply address_walk_accounted
              simp only [Session.addressesFor, found, filled, allocated, if_true]
              exact rfl

/-- A query is accounted for exactly if no call of it fails after its cache,
and the address cache is filled. -/
theorem accounted_iff_releases :
    query.Accounted text session ↔ query.Releases session := by
  cases query with
  | link calls => exact link_accounted_iff text
  | address kind calls => exact address_accounted_iff text

end Queries

/-! ## Runs -/

/-- The module with its objects and the ledger of what they hold of libnl.
The ledger is absent after a release of something that was not held.  The
process may have ended in a fault. -/
structure Stock where
  shared : Shared
  object : Nat -> PyEtherInfo
  pending : Option PyError
  ledger : Option (Multiset LibnlObject)
  fault : Option Fault

/-- An object makes a query, or something else happens to the objects, the
connection and the pending exception. -/
inductive StockAction where
  | query (address : Nat) (query : Query)
  | elsewhere (shared : Shared) (object : Nat -> PyEtherInfo) (pending : Option PyError)

namespace Stock

/-- The session in which an object makes its query. -/
def session (stock : Stock) (address : Nat) : Session where
  shared := stock.shared
  self := stock.object address
  pending := stock.pending
  log := []

/-- The module after a query of an object, as far as it gets. -/
def queried (text : AddressText) (stock : Stock) (address : Nat) (query : Query) : Stock :=
  let ends := query.perform text (stock.session address)
  let after := sessionOf ends
  { shared := after.shared
    object := Function.update stock.object address after.self
    pending := after.pending
    ledger := stock.ledger.bind (fun held => settle held (libnlMovements after.log))
    fault := faultOf ends }

/-- A query that stops at a fault takes the process with it. -/
def step (text : AddressText) (stock : Stock) (action : StockAction) : Option Stock :=
  match stock.fault, action with
  | some _, _ => none
  | none, .query address query => some (stock.queried text address query)
  | none, .elsewhere shared object pending =>
      some { stock with shared := shared, object := object, pending := pending }

/-- A query that ends releases what it acquires and nothing else, and the
ledger is the same before and after it.  One that does not end releases
nothing that it has not acquired. -/
def LeavesLedger (text : AddressText) (stock : Stock) (action : StockAction) (next : Stock) :
    Prop :=
  match action with
  | .query address query =>
      query.Accounted text (stock.session address) ∧
        (next.fault = none -> next.ledger = stock.ledger)
  | .elsewhere _ _ _ => True

/-- No call fails for which the query has no provision. -/
def Provided (stock : Stock) (action : StockAction) (_next : Stock) : Prop :=
  match action with
  | .query address query => query.Releases (stock.session address)
  | .elsewhere _ _ _ => True

/-- A query that is accounted for leaves the ledger as it was, if it ends. -/
theorem queried_ledger (text : AddressText) {stock : Stock} {address : Nat} {query : Query}
    (accounted : query.Accounted text (stock.session address))
    (ends : (stock.queried text address query).fault = none) :
    (stock.queried text address query).ledger = stock.ledger := by
  cases performed : query.perform text (stock.session address) with
  | error stopped =>
      simp only [queried, performed, faultOf] at ends
      cases ends
  | ok after =>
      have balanced := (accounted_ended text performed).mp accounted
      simp only [queried, performed, sessionOf_ok]
      cases held : stock.ledger with
      | none => rfl
      | some ledger => exact balanced.settle ledger

theorem leavesLedger_iff (text : AddressText) {stock next : Stock} {action : StockAction}
    (taken : stock.step text action = some next) :
    stock.LeavesLedger text action next ↔ stock.Provided action next := by
  cases action with
  | elsewhere shared object pending => exact Iff.rfl
  | query address query =>
      simp only [LeavesLedger, Provided, ← accounted_iff_releases text]
      cases running : stock.fault with
      | some fault => simp [step, running] at taken
      | none =>
          simp only [step, running, Option.some.injEq] at taken
          subst taken
          constructor
          · exact And.left
          · intro accounted
            exact ⟨accounted, queried_ledger text accounted⟩

/-- Along a run the ledger stays as it is exactly if in each query the calls
that follow the cache succeed and the address cache is filled. -/
theorem eachStep_leavesLedger_iff (text : AddressText) (stock : Stock)
    (actions : List StockAction) :
    EachStep (step text) (LeavesLedger text) stock actions ↔
      EachStep (step text) Provided stock actions := by
  constructor
  · intro each
    exact each.mono (fun _ _ _ taken => (leavesLedger_iff text taken).mp)
  · intro each
    exact each.mono (fun _ _ _ taken => (leavesLedger_iff text taken).mpr)

end Stock

/-- Nothing is held of libnl, and one object has been made. -/
def Stock.fresh : Stock where
  shared := { nlconnection := none, nlconnectionUsers := 0 }
  object := fun _ => newEtherInfo .cleared eth0
  pending := none
  ledger := some 0
  fault := none

/-- The dump of the addresses fails: a cache is freed that was not made. -/
theorem address_dump_fails_unbalanced :
    ¬ EachStep (Stock.step plainText) (Stock.LeavesLedger plainText) Stock.fresh
      [.query 0 (.address .addr4
        { AddressCalls.dump [] with addrCache := .error "Out of memory" })] := by
  intro each
  have first := (each _ rfl).1.1
  have releases := (accounted_iff_releases plainText).mp first
  rcases releases with missing | ⟨⟨records, filled⟩, _⟩
  · cases missing
  · cases filled

end Netlink
end PythonEthtool
