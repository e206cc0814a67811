import Rita.TunnelManager.Ports

/-! # Garbage collection

`Handler<TriggerGC>` splits the storage into the tunnels heard from within the threshold and
the others, stores the first part, and then, for each stale tunnel in turn, calls `unmonitor`
and `KI.del_interface` and returns its port to the pool; the first failed deletion ends the
handler.

`splitTunnels_lookup` reads the split key by key: the kept tunnels of an identity are its stored
tunnels filtered by the threshold, in their stored order, and no kept list is empty.
`trigger_gc_keeps_fresh_tunnels` is the handler's law. -/

namespace Rita

open scoped List

theorem lookup_pushTunnel (m : HashMap Identity (List Tunnel)) (k k' : Identity) (t : Tunnel) :
    (pushTunnel m k t).lookup k' =
      if k' = k then some ((m.lookup k).getD [] ++ [t]) else m.lookup k' := by
  unfold pushTunnel
  split
  · subst k'; exact AList.lookup_insert _
  · exact AList.lookup_insert_ne ‹_›

/-- The pairs of the loop of `TriggerGC` with key `k` are the tunnels stored under `k`. -/
theorem pairs_filter_key (m : HashMap Identity (List Tunnel)) (k : Identity) :
    ((m.entries.flatMap fun e => e.2.map (e.1, ·)).filter (·.1 = k)).map (·.2) =
      (m.lookup k).getD [] := by
  obtain ⟨l, hnd⟩ := m
  show _ = (l.dlookup k).getD []
  induction l with
  | nil => rfl
  | cons e l ih =>
    obtain ⟨a, v⟩ := e
    rw [List.nodupKeys_cons] at hnd
    simp only [List.flatMap_cons, List.filter_append, List.map_append, ih hnd.2]
    by_cases hk : a = k
    · subst hk
      rw [List.dlookup_eq_none.mpr hnd.1, List.dlookup_cons_eq]
      simp [List.filter_map, Function.comp_def]
    · rw [List.dlookup_cons_ne _ _ (Ne.symm hk)]
      simp [List.filter_map, Function.comp_def, hk]

section
variable (threshold now : Nat) (k : Identity)

/-- One step of the loop of `TriggerGC`, seen from the key `k`. -/
theorem splitTunnel_lookup (acc : HashMap Identity (List Tunnel) × HashMap Identity (List Tunnel))
    (p : Identity × Tunnel) :
    ((splitTunnel threshold now p.1 acc p.2).1.lookup k).getD [] =
        (acc.1.lookup k).getD [] ++ (if p.1 = k ∧ now - p.2.lastContact < threshold then [p.2] else []) ∧
      ((splitTunnel threshold now p.1 acc p.2).2.lookup k).getD [] =
        (acc.2.lookup k).getD [] ++ (if p.1 = k ∧ ¬now - p.2.lastContact < threshold then [p.2] else []) ∧
      ((∀ ts, acc.1.lookup k = some ts → ts ≠ []) →
        ∀ ts, (splitTunnel threshold now p.1 acc p.2).1.lookup k = some ts → ts ≠ []) := by
  unfold splitTunnel
  by_cases hf : now - p.2.lastContact < threshold
  · rw [if_pos hf]
    rcases eq_or_ne p.1 k with rfl | hk
    · simp [lookup_pushTunnel, hf]
    · simp [lookup_pushTunnel, hk, Ne.symm hk]
  · rw [if_neg hf]
    rcases eq_or_ne p.1 k with rfl | hk
    · simp [lookup_pushTunnel, hf]
    · simp [lookup_pushTunnel, hk, Ne.symm hk]

/-- The loop of `TriggerGC` over pairs: under `k`, `good` gains the pairs of `k` heard from
within `threshold`, `timed_out` the others, in order; no list of `good` is empty. -/
theorem foldl_splitTunnel_lookup :
    ∀ (L : List (Identity × Tunnel)) (acc : HashMap Identity (List Tunnel) × HashMap Identity (List Tunnel)),
      ((L.foldl (fun acc p => splitTunnel threshold now p.1 acc p.2) acc).1.lookup k).getD [] =
          (acc.1.lookup k).getD [] ++
            ((L.filter (·.1 = k)).map (·.2)).filter (fun t => now - t.lastContact < threshold) ∧
        ((L.foldl (fun acc p => splitTunnel threshold now p.1 acc p.2) acc).2.lookup k).getD [] =
          (acc.2.lookup k).getD [] ++
            ((L.filter (·.1 = k)).map (·.2)).filter (fun t => ¬now - t.lastContact < threshold) ∧
        ((∀ ts, acc.1.lookup k = some ts → ts ≠ []) →
          ∀ ts, (L.foldl (fun acc p => splitTunnel threshold now p.1 acc p.2) acc).1.lookup k = some ts → ts ≠ [])
  | [], acc => by simp
  | p :: L, acc => by
    obtain ⟨ih₁, ih₂, ih₃⟩ := foldl_splitTunnel_lookup L (splitTunnel threshold now p.1 acc p.2)
    obtain ⟨h₁, h₂, h₃⟩ := splitTunnel_lookup threshold now k acc p
    simp only [List.foldl_cons]
    refine ⟨ih₁.trans ?_, ih₂.trans ?_, fun hne => ih₃ (h₃ hne)⟩
    · rw [h₁]
      by_cases hk : p.1 = k <;> by_cases hf : now - p.2.lastContact < threshold <;>
        simp [hk, hf, List.filter_cons]
    · rw [h₂]
      by_cases hk : p.1 = k <;> by_cases hf : now - p.2.lastContact < threshold <;>
        simp [hk, hf, List.filter_cons]
      simp [Nat.not_lt.mp hf]
end

/-- After the loop of `TriggerGC`, under every key, `good` holds the tunnels heard from within
the threshold and `timed_out` the others, both in their stored order; no list of `good` is
empty. -/
theorem splitTunnels_lookup (threshold now : Nat) (m : HashMap Identity (List Tunnel)) (k : Identity) :
    ((splitTunnels threshold now m).1.lookup k).getD [] =
        ((m.lookup k).getD []).filter (fun t => now - t.lastContact < threshold) ∧
      ((splitTunnels threshold now m).2.lookup k).getD [] =
        ((m.lookup k).getD []).filter (fun t => ¬now - t.lastContact < threshold) ∧
      ∀ ts, (splitTunnels threshold now m).1.lookup k = some ts → ts ≠ [] := by
  obtain ⟨h₁, h₂, h₃⟩ :=
    foldl_splitTunnel_lookup threshold now k (m.entries.flatMap fun e => e.2.map (e.1, ·)) (∅, ∅)
  rw [pairs_filter_key] at h₁ h₂
  rw [splitTunnels_eq]
  exact ⟨by simpa using h₁, by simpa using h₂, h₃ fun _ h => by cases h⟩

theorem mem_flatMap_entries {m : HashMap Identity (List Tunnel)} {t : Tunnel} :
    t ∈ m.entries.flatMap (·.2) ↔ ∃ k, t ∈ (m.lookup k).getD [] := by
  constructor
  · intro h
    obtain ⟨e, he, ht⟩ := List.mem_flatMap.mp h
    exact ⟨e.1, by rw [AList.mem_lookup_iff.mpr he]; exact ht⟩
  · rintro ⟨k, hk⟩
    cases hl : m.lookup k with
    | none => simp [hl] at hk
    | some ts =>
      rw [hl] at hk
      exact List.mem_flatMap.mpr ⟨⟨k, ts⟩, AList.mem_lookup_iff.mp hl, hk⟩

/-- The tunnels `TriggerGC` times out are the stale tunnels of the storage. -/
theorem timedOut_perm (threshold now : Nat) (m : HashMap Identity (List Tunnel)) :
    (splitTunnels threshold now m).2.entries.flatMap (·.2) ~
      (m.entries.flatMap (·.2)).filter fun t => ¬now - t.lastContact < threshold := by
  have hp := (splitTunnels_perm threshold now m).filter fun t => ¬now - t.lastContact < threshold
  have hgood : ((splitTunnels threshold now m).1.entries.flatMap (·.2)).filter
      (fun t => ¬now - t.lastContact < threshold) = [] := by
    refine List.filter_eq_nil_iff.mpr fun t ht => ?_
    obtain ⟨k, hk⟩ := mem_flatMap_entries.mp ht
    rw [(splitTunnels_lookup threshold now m k).1] at hk
    simpa using (List.mem_filter.mp hk).2
  have hstale : ((splitTunnels threshold now m).2.entries.flatMap (·.2)).filter
      (fun t => ¬now - t.lastContact < threshold) =
        (splitTunnels threshold now m).2.entries.flatMap (·.2) := by
    refine List.filter_eq_self.mpr fun t ht => ?_
    obtain ⟨k, hk⟩ := mem_flatMap_entries.mp ht
    rw [(splitTunnels_lookup threshold now m k).2.1] at hk
    exact (List.mem_filter.mp hk).2
  rw [List.filter_append, hgood, hstale, List.nil_append] at hp
  exact hp

/-- When every deletion succeeds, the second loop unmonitors and deletes each tunnel once, and
returns each port. -/
theorem releaseTimedOut_ok {delOk : Nat → Bool} (hok : ∀ n, delOk n = true) :
    ∀ (n : Nat) (ts : List Tunnel) (freePorts : List UInt16),
      releaseTimedOut delOk n ts freePorts = (.ok (), freePorts ++ ts.map (·.listenPort),
        ts.flatMap fun t => [.unmonitor t.ifaceName, .delInterface t.ifaceName true])
  | _, [], _ => by simp [releaseTimedOut]
  | n, t :: ts, freePorts => by
    rw [releaseTimedOut, if_pos (hok n), releaseTimedOut_ok hok (n + 1) ts]
    simp

/-- **`TriggerGC`.** Under every identity the tunnels heard from within the threshold stay, in
order, and the others go; no identity is left with an empty list. When every
`KI.del_interface` succeeds, the timed-out tunnels are unmonitored and deleted one by one and
their ports go back to the pool. -/
theorem trigger_gc_keeps_fresh_tunnels (threshold : Nat) (env : GcEnv) (tm : TunnelManager) :
    (∀ k, ((handleTriggerGC threshold env tm).2.1.tunnels.lookup k).getD [] =
        ((tm.tunnels.lookup k).getD []).filter fun t => env.now - t.lastContact < threshold) ∧
      (∀ k ts, (handleTriggerGC threshold env tm).2.1.tunnels.lookup k = some ts → ts ≠ []) ∧
      ((∀ n, env.delOk n = true) →
        ∃ stale, stale ~ tm.allTunnels.filter (fun t => ¬env.now - t.lastContact < threshold) ∧
          (handleTriggerGC threshold env tm).1 = .ok () ∧
          (handleTriggerGC threshold env tm).2.1.freePorts =
            tm.freePorts ++ stale.map (·.listenPort) ∧
          (handleTriggerGC threshold env tm).2.2 =
            stale.flatMap fun t => [.unmonitor t.ifaceName, .delInterface t.ifaceName true]) := by
  refine ⟨fun k => (splitTunnels_lookup threshold env.now tm.tunnels k).1,
    fun k => (splitTunnels_lookup threshold env.now tm.tunnels k).2.2, fun hok => ?_⟩
  refine ⟨_, timedOut_perm threshold env.now tm.tunnels, ?_⟩
  simp only [handleTriggerGC, releaseTimedOut_ok hok, and_self]

end Rita
