/-
Lists and rule sets are checked item by item.

What is found in a list is what is found in its entries, and what is found
in an entry depends on this entry alone. So an issue never hides one of
another entry, although the check of a whole entry is made only when
nothing else was found in it: the entry is where that ends.
-/
import Sdwan.Policy.RuleSet
import Sdwan.Proofs.Validation.Nested
import Sdwan.Stock.Patterns

namespace Sdwan.Policy

open Validation

-- ============================================== entries

/-- What is found in an entry begins with a field of the entry. -/
theorem rooted_entry [Patterns] (k : ListKind) (e : k.Entry) : Rooted (check e) := by
  cases k with
  | asPath | color | community | fqdn | ipsSignature | mirror | protocolName | site | urlAllow
    | urlBlock => exact rooted_nil
  | classMap | dataIpv6Prefix | dataPrefix | localDomain | port | tloc | vpn =>
      exact rooted_atField _ _
  | app | colorGroup | geoLocation | localApp => exact rooted_thenWhole rooted_nil _
  | appProbe => exact rooted_insideEach _ _ _
  | ipv4Prefix | ipv6Prefix =>
      exact rooted_append (rooted_append (rooted_atField _ _) (rooted_onTextIf _ _ _))
        (rooted_onTextIf _ _ _)
  | policer => exact rooted_append (rooted_atField _ _) (rooted_atField _ _)
  | slaClass =>
      refine rooted_thenWhole (rooted_append ?_ ?_) _
      · exact rooted_append (rooted_append (rooted_onTextIf _ _ _) (rooted_onTextIf _ _ _))
          (rooted_onTextIf _ _ _)
      · split
        · exact rooted_nil
        · exact rooted_inside _ _
  | zone => exact rooted_thenWhole (rooted_onTextIf _ _ _) _

/-- What is found in a rule begins with a field of the rule. -/
theorem rooted_rule (r : Rule) : Rooted (check r) := by
  refine rooted_thenWhole (rooted_append (rooted_append (rooted_append ?_ ?_) ?_) ?_) _
  · exact rooted_atField _ _
  · exact rooted_onTextIf _ _ _
  · exact rooted_onTextIf _ _ _
  · exact rooted_onTextIf _ _ _

-- ============================================== rule sets

/-- The report of a rule set is that of its rules, under the definition. -/
theorem check_ruleSet (s : RuleSet) :
    check s = inside "definition" (insideEach "rules" check s.definition.rules) := rfl

/-- What is found in a rule set is what is found in one of its rules. -/
theorem mem_check_ruleSet {s : RuleSet} {f : Finding} :
    f ∈ check s ↔ ∃ i r g, s.definition.rules[i]? = some r ∧ g ∈ check r
      ∧ f = g.under [.field "definition", .field "rules", .index i] := by
  rw [check_ruleSet, mem_inside]
  constructor
  · rintro ⟨h, hmem, rfl⟩
    obtain ⟨i, r, g, hr, hg, rfl⟩ := mem_insideEach.mp hmem
    exact ⟨i, r, g, hr, hg, g.under_under _ _⟩
  · rintro ⟨i, r, g, hr, hg, rfl⟩
    exact ⟨_, mem_insideEach.mpr ⟨i, r, g, hr, hg, rfl⟩,
      (g.under_under [.field "definition"] [.field "rules", .index i]).symm⟩

/-- Another rule adds what is found in it. -/
theorem check_addRule (s : RuleSet) (r : Rule) :
    check (s.addRule r) = check s ++ (check r).map
      (Finding.under [.field "definition", .field "rules", .index s.definition.rules.length]) := by
  have hrules : (s.addRule r).definition.rules = s.definition.rules ++ [r] := rfl
  rw [check_ruleSet, hrules, insideEach_concat, inside_eq, List.map_append, List.map_map]
  exact congrArg _ (List.map_congr_left fun f _ => f.under_under _ _)

-- ============================================== item by item

/-- Lists of every kind and rule sets are checked item by item.

There is nothing to report exactly when there is nothing to report on any
item. What is found is what is found in an item, under its index. Another
item at the end adds what is found in it and leaves the rest of the report
as it is. And the text of a place is that of the place in the item, behind
that of the item. -/
theorem check_itemwise [Patterns] :
    (∀ (k : ListKind) (l : PolicyList k),
      (check l = [] ↔ ∀ e ∈ l.entries, check e = [])
        ∧ (∀ f, f ∈ check l ↔ ∃ i e g, l.entries[i]? = some e ∧ g ∈ check e
            ∧ f = g.under [.field "entries", .index i])
        ∧ (∀ e, check (l.push e) = check l
            ++ (check e).map (Finding.under [.field "entries", .index l.entries.length]))
        ∧ ∀ (i : Nat) (e : k.Entry), ∀ g ∈ check e,
            (g.under [.field "entries", .index i]).place
              = "entries[" ++ toString i ++ "]." ++ g.place)
      ∧ ∀ s : RuleSet,
        (check s = [] ↔ ∀ r ∈ s.definition.rules, check r = [])
          ∧ (∀ f, f ∈ check s ↔ ∃ i r g, s.definition.rules[i]? = some r ∧ g ∈ check r
              ∧ f = g.under [.field "definition", .field "rules", .index i])
          ∧ (∀ r, check (s.addRule r) = check s ++ (check r).map (Finding.under
              [.field "definition", .field "rules", .index s.definition.rules.length]))
          ∧ ∀ (i : Nat) (r : Rule), ∀ g ∈ check r,
              (g.under [.field "definition", .field "rules", .index i]).place
                = "definition.rules[" ++ toString i ++ "]." ++ g.place := by
  refine ⟨fun k l => ⟨insideEach_eq_nil, fun f => mem_insideEach, fun e => ?_, fun i e g hg => ?_⟩,
    fun s => ⟨?_, fun f => mem_check_ruleSet, check_addRule s, fun i r g hg => ?_⟩⟩
  · exact insideEach_concat "entries" check l.entries e
  · have hlist : String.ofList (pathText [.field "entries"]) ++ "[" = "entries[" := by
      decide +kernel
    have hplace := place_item (List.cons_ne_nil (.field "entries") []) i (rooted_entry k e g hg)
    rwa [hlist] at hplace
  · rw [check_ruleSet, inside_eq_nil, insideEach_eq_nil]
  · have hlist : String.ofList (pathText [.field "definition", .field "rules"]) ++ "["
        = "definition.rules[" := by decide +kernel
    have hplace :=
      place_item (List.cons_ne_nil (.field "definition") [.field "rules"]) i (rooted_rule r g hg)
    rwa [hlist] at hplace

/-- A list of probes with a good entry. -/
def PolicyList.probes : PolicyList .appProbe :=
  (PolicyList.new .appProbe "probes").push ⟨[⟨"gold", 46⟩], "voice"⟩

section Stock

attribute [local instance] Stock.patterns

/-- A second entry with a value out of range adds what is found in it, at
its position and in it. -/
theorem check_itemwise_probes :
    ∃ g ∈ check (AppProbeClassEntry.mk [⟨"gold", 64⟩] "video"),
      check (PolicyList.probes.push ⟨[⟨"gold", 64⟩], "video"⟩)
          = check PolicyList.probes ++ [g.under [.field "entries", .index 1]]
        ∧ (g.under [.field "entries", .index 1]).place = "entries[1]." ++ "map[0].dscp" := by
  obtain ⟨-, -, hpush, hplace⟩ := check_itemwise.1 .appProbe PolicyList.probes
  refine ⟨_, List.mem_cons_self, hpush _, ?_⟩
  rw [hplace 1 (AppProbeClassEntry.mk [⟨"gold", 64⟩] "video") _ List.mem_cons_self]
  decide +kernel

end Stock

end Sdwan.Policy
