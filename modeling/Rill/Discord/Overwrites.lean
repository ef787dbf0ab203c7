import Rill.Discord.Catalog

/-!
# Permission overwrites

`ServerSetup._build_overwrites` turns a template name and the live role ids into
the `permission_overwrites` list of a channel-creation payload: a record for the
public role, whose id is the guild id, then one record per role the template
names, each appended only when that role's id is set, and finally every record
with an empty id dropped.  `build_read_only_overwrites` of
`add_feed_channels.py` is the same for `read_only` without the final filter.

`Template` is the table of the four templates, one record per role and no
guard, and `templateOverwrites` the full list it describes.  The two meet in
`buildOverwrites_eq_templateOverwrites`: once the guild id and every named
role's id are set, the code sends exactly the full list.
-/

namespace Rill
namespace Discord

/-- `VIEW | HISTORY`, the bits of a read-only grant. -/
def viewHistory : Nat := permViewChannel ||| permReadMessagesHistory

/-- `VIEW | SEND | HISTORY`, the bits of a full grant. -/
def viewSendHistory : Nat :=
  permViewChannel ||| permSendMessages ||| permReadMessagesHistory

/-- A role record appended only `if role_id:`. -/
def grant (id : Json) (allow deny : Nat) : List Overwrite :=
  if id.truthy then [⟨id, owRole, allow, deny⟩] else []

@[simp] theorem grant_of_truthy {id : Json} (set : id.truthy = true) (allow deny : Nat) :
    grant id allow deny = [⟨id, owRole, allow, deny⟩] := by
  simp [grant, set]

/-- `self.role_ids.get(name, "")`. -/
def roleIdOf (roleIds : Dict Json) (name : String) : Json :=
  (roleIds.get? name).getD (.str "")

/-- `ServerSetup._build_overwrites(template)` with `self.everyone_role_id` and
`self.role_ids`. -/
def buildOverwrites (everyoneRoleId : String) (roleIds : Dict Json)
    (template : String) : List Overwrite :=
  let everyone : Json := .str everyoneRoleId
  let unverified := roleIdOf roleIds "Unverified"
  let member := roleIdOf roleIds "Member"
  let contributor := roleIdOf roleIds "Contributor"
  let founder := roleIdOf roleIds "Founder"
  let coreTeam := roleIdOf roleIds "Core Team"
  let moderator := roleIdOf roleIds "Moderator"
  let overwrites :=
    if template = "read_only" then
      ⟨everyone, owRole, viewHistory, permSendMessages⟩ ::
        grant unverified viewHistory permSendMessages
    else if template = "community" then
      ⟨everyone, owRole, 0, permSendMessages⟩ ::
        (grant unverified 0 (permViewChannel ||| permSendMessages) ++
          grant member viewSendHistory 0)
    else if template = "governance" then
      ⟨everyone, owRole, 0, permSendMessages⟩ ::
        (grant unverified 0 (permViewChannel ||| permSendMessages) ++
          grant member viewHistory permSendMessages ++
          grant contributor viewSendHistory 0)
    else if template = "team_only" then
      ⟨everyone, owRole, 0, permViewChannel⟩ ::
        (grant founder viewSendHistory 0 ++ grant coreTeam viewSendHistory 0 ++
          grant moderator viewSendHistory 0)
    else []
  overwrites.filter fun ow => ow.id.truthy

/-- `build_read_only_overwrites(everyone_role_id, role_ids)` of
`add_feed_channels.py`; `role_ids.get("Unverified")` defaults to `None`. -/
def buildReadOnlyOverwrites (everyoneRoleId : Json) (roleIds : Dict Json) :
    List Overwrite :=
  ⟨everyoneRoleId, owRole, viewHistory, permSendMessages⟩ ::
    grant ((roleIds.get? "Unverified").getD .null) viewHistory permSendMessages

/-! ## The template table -/

/-- One template of the table: the public role's allow and deny bits, then each
named role with its allow and deny bits, in record order. -/
structure Template where
  everyone : Nat × Nat
  grants : List (String × Nat × Nat)

/-- The four templates. -/
def template? : String → Option Template
  | "read_only" =>
      some ⟨(viewHistory, permSendMessages), [("Unverified", viewHistory, permSendMessages)]⟩
  | "community" =>
      some ⟨(0, permSendMessages),
        [("Unverified", 0, permViewChannel ||| permSendMessages),
          ("Member", viewSendHistory, 0)]⟩
  | "governance" =>
      some ⟨(0, permSendMessages),
        [("Unverified", 0, permViewChannel ||| permSendMessages),
          ("Member", viewHistory, permSendMessages), ("Contributor", viewSendHistory, 0)]⟩
  | "team_only" =>
      some ⟨(0, permViewChannel),
        [("Founder", viewSendHistory, 0), ("Core Team", viewSendHistory, 0),
          ("Moderator", viewSendHistory, 0)]⟩
  | _ => none

/-- The roles a template names. -/
def Template.roles (t : Template) : List String := t.grants.map Prod.fst

/-- The full record list of a template: the public role's, then one per named
role carrying that role's id. -/
def templateOverwrites (everyone : Json) (roleId : String → Json) (t : Template) :
    List Overwrite :=
  ⟨everyone, owRole, t.everyone.1, t.everyone.2⟩ ::
    t.grants.map fun g => ⟨roleId g.1, owRole, g.2.1, g.2.2⟩

/-- The targets of the full list: the public role, then each named role. -/
theorem templateOverwrites_ids (everyone : Json) (roleId : String → Json) (t : Template) :
    (templateOverwrites everyone roleId t).map Overwrite.id =
      everyone :: t.roles.map roleId := by
  simp [templateOverwrites, Template.roles]

/-- The roles `_validate_required_roles` requires. -/
def requiredRoles : List String :=
  ["Founder", "Core Team", "Moderator", "Contributor", "Member", "Unverified"]

/-- Every role a template names is a required role. -/
theorem Template.roles_subset_required {name : String} {t : Template}
    (found : template? name = some t) : ∀ r ∈ t.roles, r ∈ requiredRoles := by
  unfold template? at found
  split at found <;> cases found <;> decide

/-- With the guild id and every named role's id set, no record is guarded out or
filtered out: the code sends the template's full list. -/
theorem buildOverwrites_eq_templateOverwrites {everyoneRoleId : String} {roleIds : Dict Json}
    {name : String} {t : Template} (found : template? name = some t)
    (everyoneSet : everyoneRoleId ≠ "")
    (rolesSet : ∀ r ∈ t.roles, (roleIdOf roleIds r).truthy = true) :
    buildOverwrites everyoneRoleId roleIds name =
      templateOverwrites (.str everyoneRoleId) (roleIdOf roleIds) t := by
  unfold template? at found
  split at found <;> cases found <;>
    simp_all [buildOverwrites, templateOverwrites, Template.roles, List.filter_cons]

theorem ite_singleton_append {c : Prop} [Decidable c] (x : Overwrite) (l : List Overwrite) :
    (if c then [x] else []) ++ l = if c then x :: l else l := by
  split <;> rfl

theorem filter_grant (id : Json) (allow deny : Nat) :
    (grant id allow deny).filter (fun ow => ow.id.truthy) =
      [(⟨id, owRole, allow, deny⟩ : Overwrite)].filter fun ow => ow.id.truthy := by
  by_cases set : id.truthy <;> simp [grant, set]

/-- Without a template there is no record. -/
theorem buildOverwrites_of_none {everyoneRoleId : String} {roleIds : Dict Json}
    {name : String} (absent : template? name = none) :
    buildOverwrites everyoneRoleId roleIds name = [] := by
  unfold template? at absent
  split at absent <;> simp_all [buildOverwrites]

/-- The compiler is the template table with every record whose target did not
resolve left out: for any role map, a record is sent exactly when its target is
set, and never with a blank target. -/
theorem buildOverwrites_eq_filter (everyoneRoleId : String) (roleIds : Dict Json) (name : String) :
    buildOverwrites everyoneRoleId roleIds name =
      match template? name with
      | some t => (templateOverwrites (.str everyoneRoleId) (roleIdOf roleIds) t).filter fun ow => ow.id.truthy
      | none => [] := by
  cases found : template? name with
  | none => exact buildOverwrites_of_none found
  | some t =>
      unfold template? at found
      split at found <;> cases found <;>
        simp only [buildOverwrites, templateOverwrites, reduceIte, String.reduceEq, List.map_cons, List.map_nil,
          List.append_assoc, List.filter_cons, List.filter_append, List.filter_nil, filter_grant,
          ite_singleton_append]

end Discord
end Rill
