import Landscape.Route.Types

/-! Address ranges of the rules, given directly or through a geo key. -/
namespace Landscape.Geo
open Route

structure IpConfig where
  ip : IpAddr
  prefixLen : UInt32
  deriving DecidableEq

def IpConfig.net (c : IpConfig) : IpNet := .around c.prefixLen.toNat c.ip

theorem family_net (ip : IpConfig) : ip.net.family = ip.ip.family := by
  obtain ⟨a,p⟩ := ip
  cases a <;> rfl

structure GeoConfigKey where
  name : String
  key : String
  deriving DecidableEq

abbrev GeoData := GeoConfigKey → List IpConfig

/- `FirewallBlacklistSource` and `WanIPRuleSource`. -/
inductive IpSource where
  | geoKey (k : GeoConfigKey)
  | config (c : IpConfig)
  deriving DecidableEq

def IpSource.resolve (geo : GeoData) : IpSource → List IpConfig
  | .geoKey k => geo k
  | .config c => [c]

end Landscape.Geo
