import AppGateway.Sessions.Histories

namespace GatewayProof

open Async GatewayModel

inductive RedisStep (before after : GatewayState) : Effect → Prop where
  | keep (effect) (redis : after.redis = before.redis) : RedisStep before after effect
  | set (key : RedisKey) (value : RedisValue) (ttlSeconds : Nat)
      (redis : after.redis = before.redis.set key value (before.expiry ttlSeconds)) :
      RedisStep before after (.redisSet key value ttlSeconds)
  | setNx (key : RedisKey) (value : RedisValue) (ttlSeconds : Nat)
      (free : before.redis.get before.clock key = none)
      (redis : after.redis = before.redis.set key value (before.expiry ttlSeconds)) :
      RedisStep before after (.redisSetNx key value ttlSeconds)
  | del (key : RedisKey) (redis : after.redis = before.redis.del key) :
      RedisStep before after (.redisDel key)

theorem insert_redis (state : GatewayState) (values : NewRefreshToken) (id : String) :
    (state.insert values id).2.redis = state.redis := by
  unfold GatewayState.insert
  split
  · split <;> rfl
  · rfl

theorem respond_redisStep {env : Env} {choice : Choice} {before after : GatewayState} {effect : Effect}
    {reply : Except Thrown effect.Reply}
    (responded : respond env choice before effect = some (reply, after)) :
    RedisStep before after effect := by
  cases effect with
  | selectLatestActiveByUser userId =>
    simp only [respond] at responded
    split at responded
    · cases responded; exact .keep _ rfl
    · obtain ⟨row, _, same⟩ := Option.map_eq_some_iff.mp responded
      cases same
      exact .keep _ rfl
  | insertRefreshToken values =>
    simp only [respond] at responded
    split at responded
    · cases responded
    · have same : (before.insert values choice.random).2 = after :=
        congrArg Prod.snd (Option.some.inj responded)
      exact .keep _ (same ▸ insert_redis before values choice.random)
  | decryptEmail encoded tenantId =>
    simp only [respond] at responded
    split at responded <;> cases responded <;> exact .keep _ rfl
  | redisSet key value ttl => cases responded; exact .set key value ttl rfl
  | redisSetNx key value ttl =>
    simp only [respond, Store.Expiring.setNx, Option.some.injEq, Prod.mk.injEq] at responded
    obtain ⟨_, rfl⟩ := responded
    cases found : before.redis.get before.clock key with
    | some held => exact .keep _ (by simp)
    | none => exact .setNx key value ttl found (by simp)
  | redisDel key => cases responded; exact .del key rfl
  | sleepUntil wakeAt =>
    simp only [respond] at responded
    split at responded <;> cases responded
    exact .keep _ rfl
  | randomString =>
    simp only [respond] at responded
    split at responded <;> cases responded
    exact .keep _ rfl
  | selectRefreshTokenByHash tokenHash => cases responded; exact .keep _ rfl
  | selectActiveByFamily sessionFamily => cases responded; exact .keep _ rfl
  | updateRevokedById id revokedAt reason => cases responded; exact .keep _ rfl
  | updateRevokedByFamily family revokedAt reason => cases responded; exact .keep _ rfl
  | selectUserByEmailHash emailHash => cases responded; exact .keep _ rfl
  | selectUserById id => cases responded; exact .keep _ rfl
  | updateLastLogin id lastLoginAt updatedAt => cases responded; exact .keep _ rfl
  | insertAuditLog entry => cases responded; exact .keep _ rfl
  | redisGet key => cases responded; exact .keep _ rfl
  | loadSigningKeys => cases responded; exact .keep _ rfl
  | dateNow => cases responded; exact .keep _ rfl

theorem exec_redisStep {env : Env} {choice : Choice} {before after : GatewayState} {effect : Effect}
    {reply : Except Thrown effect.Reply}
    (executed : exec env effect choice before = some (reply, after)) : RedisStep before after effect := by
  unfold exec at executed
  split at executed
  · exact respond_redisStep executed
  · split at executed <;> cases executed
    exact .keep effect rfl
  · split at executed
    · cases executed
    · obtain ⟨⟨answer, state⟩, responded, same⟩ := Option.map_eq_some_iff.mp executed
      cases same
      exact respond_redisStep responded

theorem external_redis (event : External) (state : GatewayState) :
    (external event state).redis = state.redis := by cases event <;> rfl

theorem RedisStep.entry_cases {before after : GatewayState} {effect : Effect}
    {entry : Store.Entry RedisKey RedisValue} (step : RedisStep before after effect)
    (member : entry ∈ after.redis) :
    entry ∈ before.redis ∨ ∃ key value ttl, entry = ⟨key, value, before.expiry ttl⟩ ∧
      (effect = .redisSet key value ttl ∨ effect = .redisSetNx key value ttl) := by
  cases step with
  | keep _ redis => exact .inl (redis ▸ member)
  | set key value ttl redis =>
    rw [redis] at member
    rcases Store.Expiring.mem_set member with same | kept
    · exact .inr ⟨key, value, ttl, same, .inl rfl⟩
    · exact .inl kept
  | setNx key value ttl free redis =>
    rw [redis] at member
    rcases Store.Expiring.mem_set member with same | kept
    · exact .inr ⟨key, value, ttl, same, .inr rfl⟩
    · exact .inl kept
  | del key redis =>
    rw [redis] at member
    exact .inl (List.mem_of_mem_filter member)

theorem redis_get_some {env : Env} {choice : Choice} {before after : GatewayState} {key : RedisKey}
    {value : RedisValue} (executed : exec env (.redisGet key) choice before = some (.ok (some value), after)) :
    ∃ entry ∈ before.redis, entry.key = key ∧ entry.value = value ∧ before.clock < entry.expiresAt := by
  have responded := exec_ok executed
  simp only [respond, Option.some.injEq, Prod.mk.injEq, Except.ok.injEq] at responded
  exact Store.Expiring.mem_of_get responded.1

end GatewayProof
