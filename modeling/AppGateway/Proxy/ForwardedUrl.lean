import AppGateway.Proxy.Refusal
import Mathlib.Data.List.TakeWhile

namespace GatewayProof

open Async GatewayModel
open Async.Program (Follows follows_replay)

def queryOf (target : String) : String := String.ofList (target.toList.dropWhile (· ≠ '?'))

theorem queryOf_eq_empty {target : String} : queryOf target = "" ↔ '?' ∉ target.toList := by
  have empty : queryOf target = "" ↔ target.toList.dropWhile (fun c => decide (c ≠ '?')) = [] := by
    rw [queryOf, ← String.toList_inj]
    simp
  have absent : target.toList.dropWhile (fun c => decide (c ≠ '?')) = [] ↔ '?' ∉ target.toList := by
    rw [List.dropWhile_eq_nil_iff]
    constructor
    · intro every member
      have other := every '?' member
      simp at other
    · intro absent c member
      have other : c ≠ '?' := fun same => absent (same ▸ member)
      simpa using other
  rw [empty, absent]

/-- The upstream gets the forwarded path and the original query exactly when there is no query. -/
theorem forwarded_url_keeps_query {env : ProxyEnv} {routes : List RouteConfig} {req sent : ProxyRequest}
    {route : RouteConfig} {events before after : List ProxyEvent} {rest : Proxy Unit}
    {reply : Except Thrown UpstreamEvent} (follows : (proxyRouter env routes req).Follows events rest)
    (dispatched : events = before ++ ⟨.proxy route sent, reply⟩ :: after) :
    ∃ forwardPath, resolveRoute env (resourcePath req) routes = .ok (some ⟨route, forwardPath⟩) ∧
      (sent.url = forwardPath ++ queryOf req.originalUrl ↔ '?' ∉ req.originalUrl.toList) := by
  refine ⟨sent.url, (dispatch_mediated follows dispatched).2, ?_⟩
  rw [← queryOf_eq_empty]
  constructor
  · intro same
    have lengths := congrArg String.length same
    rw [String.length_append] at lengths
    exact String.length_eq_zero_iff.mp (by omega)
  · intro empty
    rw [empty, String.append_empty]

theorem mem_dispatches {events : List ProxyEvent} {route : RouteConfig} {sent : ProxyRequest}
    (member : (route, sent) ∈ dispatches events) :
    ∃ before reply after, events = before ++ ⟨.proxy route sent, reply⟩ :: after := by
  obtain ⟨⟨op, reply⟩, present, same⟩ := List.mem_filterMap.mp member
  cases op with
  | proxy route' sent' =>
    cases same
    obtain ⟨before, after, split⟩ := List.append_of_mem present
    exact ⟨before, reply, after, split⟩
  | _ => cases same

theorem firstRequest_dispatched (target : String) (sent : ProxyRequest)
    (dispatched : dispatches ((proxyRouter sampleProxy [usersRoute] (sampleRequest target)).replay firstRequest).1 =
      [(usersRoute, sent)]) :
    ∃ (events before after : List ProxyEvent) (rest : Proxy Unit) (reply : Except Thrown UpstreamEvent),
      (proxyRouter sampleProxy [usersRoute] (sampleRequest target)).Follows events rest ∧
      events = before ++ ⟨.proxy usersRoute sent, reply⟩ :: after := by
  have member : (usersRoute, sent) ∈
      dispatches ((proxyRouter sampleProxy [usersRoute] (sampleRequest target)).replay firstRequest).1 := by
    rw [dispatched]
    exact List.mem_singleton_self _
  obtain ⟨before, reply, after, split⟩ := mem_dispatches member
  exact ⟨_, before, after, _, reply, follows_replay _ _, split⟩

/-- A request with a query reaches the upstream without it. -/
theorem forwarded_url_drops_query : ∃ (sent : ProxyRequest) (events before after : List ProxyEvent)
    (rest : Proxy Unit) (reply : Except Thrown UpstreamEvent),
    (proxyRouter sampleProxy [usersRoute] (sampleRequest "/api/users/1?x=1")).Follows events rest ∧
    events = before ++ ⟨.proxy usersRoute sent, reply⟩ :: after ∧
    resolveRoute sampleProxy (resourcePath (sampleRequest "/api/users/1?x=1")) [usersRoute] =
      .ok (some ⟨usersRoute, "/api/users/1"⟩) ∧
    sent.url ≠ "/api/users/1" ++ queryOf "/api/users/1?x=1" := by
  obtain ⟨events, before, after, rest, reply, follows, split⟩ := firstRequest_dispatched "/api/users/1?x=1"
    { sampleRequest "/api/users/1?x=1" with url := "/api/users/1" } (by decide +kernel)
  exact ⟨_, events, before, after, rest, reply, follows, split, by decide +kernel, by decide +kernel⟩

theorem forwarded_url_keeps_path : ∃ forwardPath,
    resolveRoute sampleProxy (resourcePath (sampleRequest "/api/users/1")) [usersRoute] =
      .ok (some ⟨usersRoute, forwardPath⟩) ∧
    ("/api/users/1" = forwardPath ++ queryOf "/api/users/1" ↔ '?' ∉ "/api/users/1".toList) := by
  obtain ⟨events, before, after, rest, reply, follows, split⟩ :=
    firstRequest_dispatched "/api/users/1" (sampleRequest "/api/users/1") (by decide +kernel)
  exact forwarded_url_keeps_query follows split

end GatewayProof
