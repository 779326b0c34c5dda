import AppGateway.Sessions.Histories

namespace GatewayProof

open Async GatewayModel
open Async.System (Modular next_cases next_threads next_extends advance_cases)

theorem drew_snoc {past : List SessionEvent} {effect : Effect} {reply : Except Thrown effect.Reply}
    {value : String} (drew : Drew (past ++ [⟨effect, reply⟩]) value) :
    Drew past value ∨ (⟨effect, reply⟩ : SessionEvent) = ⟨.randomString, .ok value⟩ := by
  rcases List.mem_append.mp drew with earlier | now
  · exact .inl earlier
  · exact .inr (List.mem_singleton.mp now).symm

theorem random_reply {env : Env} {choice : Choice} {before after : GatewayState} {value : String}
    (executed : exec env .randomString choice before = some (.ok value, after)) :
    value ∉ before.drawn ∧ value ∈ after.drawn := by
  have responded := exec_ok executed
  simp only [respond] at responded
  split at responded
  · cases responded
  · rename_i fresh
    cases responded
    exact ⟨fresh, List.mem_cons_self ..⟩

section Processes

variable {env : Env} {Call Out : Type} {code : Call → Gateway Out}
  {permits : Call → List SessionEvent → Effect → Prop}
  {ends : Call → List SessionEvent → Except Thrown Out → Prop}
  {config after : GatewayConfig Call Out} {label : GatewayLabel Call}

structure DrawsApart (config : GatewayConfig Call Out) : Prop where
  seen : ∀ thread ∈ config.threads, ∀ value, Drew thread.past value → value ∈ config.state.drawn
  apart : ∀ (first second : Nat) (one two : GatewayThread Call Out) (value : String),
    config.threads[first]? = some one → config.threads[second]? = some two →
    Drew one.past value → Drew two.past value → first = second

theorem drew_next (moved : (processes env code).next config label = some after) {index : Nat}
    {thread : GatewayThread Call Out} (found : after.threads[index]? = some thread) {value : String}
    (drew : Drew thread.past value) :
    (∃ old, config.threads[index]? = some old ∧ Drew old.past value) ∨
    ((∃ choice, label = .step index choice) ∧ value ∉ config.state.drawn ∧ value ∈ after.state.drawn) := by
  rcases next_threads moved found with kept | ⟨call, _, _, rfl⟩ | ⟨choice, old, rfl, there, advanced⟩ |
    ⟨old, _, there, rfl⟩
  · exact .inl ⟨thread, kept, drew⟩
  · simp [Drew, Thread.start] at drew
  · obtain ⟨effect, resume, reply, _, _, executed, rfl⟩ := advance_cases advanced
    rcases drew_snoc drew with earlier | same
    · exact .inl ⟨old, there, earlier⟩
    · cases same
      obtain ⟨fresh, stored⟩ := random_reply executed
      exact .inr ⟨⟨choice, rfl⟩, fresh, stored⟩
  · exact .inl ⟨old, there, drew⟩

theorem DrawsApart.next (apart : DrawsApart config)
    (moved : (processes env code).next config label = some after) : DrawsApart after := by
  have growth : Grows config.state after.state := processes_grow moved
  constructor
  · intro thread member value drew
    obtain ⟨index, found⟩ := List.getElem?_of_mem member
    rcases drew_next moved found drew with ⟨old, there, earlier⟩ | ⟨_, _, stored⟩
    · exact growth.drawn (apart.seen old (List.mem_of_getElem? there) value earlier)
    · exact stored
  · intro first second one two value found found' drew drew'
    rcases drew_next moved found drew with ⟨old, there, earlier⟩ | ⟨⟨choice, step⟩, fresh, _⟩ <;>
      rcases drew_next moved found' drew' with ⟨old', there', earlier'⟩ | ⟨⟨choice', step'⟩, fresh', _⟩
    · exact apart.apart first second old old' value there there' earlier earlier'
    · exact (fresh' (apart.seen old (List.mem_of_getElem? there) value earlier)).elim
    · exact (fresh (apart.seen old' (List.mem_of_getElem? there') value earlier')).elim
    · rw [step] at step'
      cases step'
      rfl

variable {founding : Call → Prop}

def Founds (founding : Call → Prop) (config : GatewayConfig Call Out) (index : Nat)
    (row : RefreshTokenRow) : Prop :=
  ∃ thread values, config.threads[index]? = some thread ∧ founding thread.call ∧
    Sent thread.past values ∧ Drew thread.past values.sessionFamily ∧
    values.sessionFamily = row.sessionFamily ∧ values.userId = row.userId

theorem Founds.of_same {index : Nat} {row other : RefreshTokenRow} (founds : Founds founding config index row)
    (family : other.sessionFamily = row.sessionFamily) (user : other.userId = row.userId) :
    Founds founding config index other := by
  obtain ⟨thread, values, found, call, sent, drew, same, same'⟩ := founds
  exact ⟨thread, values, found, call, sent, drew, same.trans family.symm, same'.trans user.symm⟩

theorem Founds.next {index : Nat} {row : RefreshTokenRow} (founds : Founds founding config index row)
    (moved : (processes env code).next config label = some after) : Founds founding after index row := by
  obtain ⟨thread, values, found, call, sent, drew, same, same'⟩ := founds
  obtain ⟨later, there, ext⟩ := next_extends moved found
  exact ⟨later, values, there, ext.call ▸ call, sent.grow ext.past.subset, ext.past.subset drew, same, same'⟩

theorem row_next (moved : (processes env code).next config label = some after)
    {row : RefreshTokenRow} (member : row ∈ after.state.refreshTokens) :
    (∃ old ∈ config.state.refreshTokens, Later old row) ∨
    (∃ index choice thread later values id resume, label = .step index choice ∧
      config.threads[index]? = some thread ∧ thread.alive = true ∧
      thread.program = .await (.insertRefreshToken values) resume ∧
      after.threads[index]? = some later ∧ later.call = thread.call ∧ thread.past ⊆ later.past ∧
      Sent later.past values ∧
      row = values.row id config.state.clock) := by
  rcases next_cases moved with ⟨call, _, rfl⟩ | ⟨index, choice, thread, later, state, rfl, found, stepped, rfl⟩ |
    ⟨place, old, _, _, rfl⟩ | ⟨event, _, rfl⟩
  · exact .inl ⟨row, member, .refl row⟩
  · obtain ⟨effect, resume, reply, alive, program, executed, rfl⟩ := advance_cases stepped
    have step : TableStep config.state state effect := exec_tableStep executed
    rcases step.row_cases member with earlier | ⟨values, id, rfl, same, _⟩
    · exact .inl earlier
    · have bound := (List.getElem?_eq_some_iff.mp found).1
      exact .inr ⟨index, choice, thread, _, values, id, resume, rfl, found, alive, program,
        List.getElem?_set_self bound, rfl, List.subset_append_left _ _,
        ⟨reply, List.mem_append_right _ (List.mem_singleton.mpr rfl)⟩, same⟩
  · exact .inl ⟨row, member, .refl row⟩
  · exact .inl ⟨row, external_refreshTokens event config.state ▸ member, .refl row⟩

/-- Where the calls get the family and user of a row they insert: a founding call inserts one row in a
    family it has drawn, any other call follows a row it has read. -/
def InsertsLineal (founding : Call → Prop) (permits : Call → List SessionEvent → Effect → Prop) : Prop :=
  ∀ call past values, permits call past (.insertRefreshToken values) →
    (founding call ∧ Drew past values.sessionFamily ∧ ∀ other, ¬ Sent past other) ∨
    (¬ founding call ∧ ∃ tokenHash row, Selected past tokenHash row ∧
      values.sessionFamily = row.sessionFamily ∧ values.userId = row.userId)

/-- Every family was founded by a call that drew it, for the user of its rows. -/
structure Lineage (founding : Call → Prop) (config : GatewayConfig Call Out) : Prop where
  draws : DrawsApart config
  founded : ∀ row ∈ config.state.refreshTokens, ∃ index, Founds founding config index row

theorem Lineage.next (lineage : Lineage founding config) (lineal : InsertsLineal founding permits)
    (valid : Modular.Holds TableValid (ProcessHolds permits ends) config)
    (moved : (processes env code).next config label = some after) : Lineage founding after where
  draws := lineage.draws.next moved
  founded := by
    intro row member
    rcases row_next moved member with ⟨old, stored, later⟩ |
      ⟨index, choice, thread, later, values, id, resume, _, found, _, program, there, call, grown, sent, rfl⟩
    · obtain ⟨index, founds⟩ := lineage.founded old stored
      exact ⟨index, (founds.next moved).of_same later.sessionFamily later.userId⟩
    · have holds := valid.2 thread (List.mem_of_getElem? found)
      rcases lineal _ _ _ (holds.1.permitted program) with ⟨first, drew, _⟩ |
        ⟨_, tokenHash, read, selected, family, user⟩
      · exact ⟨index, later, values, there, call ▸ first, sent, grown drew, rfl, rfl⟩
      · obtain ⟨stored, present, version⟩ := (holds.2.selected _ _ selected).2
        obtain ⟨founder, founds⟩ := lineage.founded stored present
        refine ⟨founder, (founds.next moved).of_same ?_ ?_⟩
        · exact family.trans version.sessionFamily.symm
        · exact user.trans version.userId.symm

theorem DrawsApart.founder_unique (draws : DrawsApart config) {first second : Nat}
    {row other : RefreshTokenRow} (founds : Founds founding config first row)
    (founds' : Founds founding config second other)
    (same : row.sessionFamily = other.sessionFamily) : first = second := by
  obtain ⟨one, values, found, _, _, drew, family, _⟩ := founds
  obtain ⟨two, values', found', _, _, drew', family', _⟩ := founds'
  rw [family, same, ← family'] at drew
  exact draws.apart first second one two _ found found' drew drew'

theorem Lineage.same_user (lineage : Lineage founding config) (lineal : InsertsLineal founding permits)
    (valid : Modular.Holds TableValid (ProcessHolds permits ends) config) {row other : RefreshTokenRow}
    (member : row ∈ config.state.refreshTokens) (member' : other ∈ config.state.refreshTokens)
    (same : row.sessionFamily = other.sessionFamily) : row.userId = other.userId := by
  obtain ⟨first, founds⟩ := lineage.founded row member
  obtain ⟨second, founds'⟩ := lineage.founded other member'
  obtain rfl := lineage.draws.founder_unique founds founds' same
  obtain ⟨thread, values, found, call, sent, _, _, user⟩ := founds
  obtain ⟨thread', values', found', _, sent', _, _, user'⟩ := founds'
  obtain rfl := Option.some.inj (found.symm.trans found')
  have once : ∀ past inserted, permits thread.call past (.insertRefreshToken inserted) →
      ∀ other, ¬ Sent past other := by
    intro past inserted permit
    rcases lineal _ past inserted permit with ⟨_, _, unsent⟩ | ⟨follows, _⟩
    · exact unsent
    · exact absurd call follows
  have lawful := (valid.2 thread (List.mem_of_getElem? found)).1.1
  obtain rfl := sent_once once lawful sent sent'
  rw [← user, user']

theorem freshGateway_lineage (clock : Nat) (users : List UserRow) :
    Lineage founding (freshGateway clock users : GatewayConfig Call Out) := by
  refine ⟨⟨?_, ?_⟩, ?_⟩ <;> simp [freshGateway]

theorem Reachable.lineage {allowed : GatewayConfig Call Out → GatewayLabel Call → Prop}
    (reachable : Reachable env code allowed config)
    (obeys : ∀ call, (code call).Obeys (permits call) (ends call) []) (lineal : InsertsLineal founding permits) :
    Lineage founding config := by
  obtain ⟨clock, users, reached⟩ := reachable
  have initial : Modular.Holds TableValid (ProcessHolds permits ends) (freshGateway clock users) ∧
      Lineage founding (freshGateway clock users : GatewayConfig Call Out) :=
    ⟨freshGateway_valid clock users, freshGateway_lineage clock users⟩
  have preserved : ∀ config label after,
      (Modular.Holds TableValid (ProcessHolds permits ends) config ∧ Lineage founding config) → allowed config label →
      (processes env code).next config label = some after →
      Modular.Holds TableValid (ProcessHolds permits ends) after ∧ Lineage founding after :=
    fun config label after holds _ moved =>
      ⟨processes_next obeys holds.1 moved, holds.2.next lineal holds.1 moved⟩
  exact (reached.invariant initial preserved).2

end Processes

end GatewayProof
