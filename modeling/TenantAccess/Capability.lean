import TenantAccess.Text.Ascii
import TenantAccess.Text.Blank

/-!
# Capabilities

What a principal may do within the reach of a grant.  Each capability has a fixed name, by which
roles list it and under which it is shown.
-/

namespace TenantAccess

/-- Something a principal may do. -/
inductive Capability where
  | viewAssets
  | manageAssets
  | viewInspections
  | performInspections
  | reviewInspections
  | deleteInspections
  | manageInspectionTemplates
  | manageCustomQuestions
  | viewReports
  | exportReports
  | manageProducts
  | manageCategories
  | viewSites
  | manageSites
  | viewClients
  | manageClients
  | inviteUsers
  | manageUsers
  | manageRoles
  | viewAuditLog
  | manageNotifications
  | manageSystemSettings
deriving DecidableEq, Repr, Inhabited

namespace Capability

/-- Every capability, in the order in which sets list them. -/
def all : List Capability := [
  viewAssets, manageAssets, viewInspections, performInspections, reviewInspections,
  deleteInspections, manageInspectionTemplates, manageCustomQuestions, viewReports, exportReports,
  manageProducts, manageCategories, viewSites, manageSites, viewClients, manageClients, inviteUsers,
  manageUsers, manageRoles, viewAuditLog, manageNotifications, manageSystemSettings]

/-- The place in the order of `all`. -/
def index (c : Capability) : Nat := c.ctorIdx

/-- The fixed name. -/
def name : Capability → String
  | viewAssets => "assets.read"
  | manageAssets => "assets.write"
  | viewInspections => "inspections.read"
  | performInspections => "inspections.perform"
  | reviewInspections => "inspections.review"
  | deleteInspections => "inspections.delete"
  | manageInspectionTemplates => "inspection_templates.write"
  | manageCustomQuestions => "custom_questions.write"
  | viewReports => "reports.read"
  | exportReports => "reports.export"
  | manageProducts => "products.write"
  | manageCategories => "categories.write"
  | viewSites => "sites.read"
  | manageSites => "sites.write"
  | viewClients => "clients.read"
  | manageClients => "clients.write"
  | inviteUsers => "users.invite"
  | manageUsers => "users.write"
  | manageRoles => "roles.write"
  | viewAuditLog => "audit_log.read"
  | manageNotifications => "notifications.write"
  | manageSystemSettings => "system.settings.write"

instance : ToString Capability := ⟨name⟩

/-- Read a name; blanks around it and the case of ASCII letters do not matter. -/
def ofName? (s : String) : Option Capability :=
  let wanted := Text.trim s
  all.find? fun c => Text.equalIgnoringAsciiCase c.name wanted

/-- The message for names that no capability has. -/
def unknownMessage (names : List String) : String :=
  "unknown capabilities: " ++ ", ".intercalate names

/-- Every capability is listed at its index. -/
theorem all_getElem?_index (c : Capability) : all[c.index]? = some c := by
  cases c <;> rfl

end Capability
end TenantAccess
