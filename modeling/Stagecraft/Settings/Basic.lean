import Stagecraft.Address.Path
import Stagecraft.Catalog

/-!
# Settings

What a host application sets before it loads content.
-/

namespace Stagecraft

structure HttpSettings where
  timeout : Float := 10
  followRedirects : Bool := true

/-- Settings: the address that documents without one of their own are taken to be at, how sites are
asked, the addresses of scenes by name, and the folder with the settings file. -/
structure Settings where
  configDir : FilePath := FilePath.ofString "config"
  baseUrl : Option String := none
  http : HttpSettings := {}
  scenes : Catalog String := []

namespace Settings

def configFile (s : Settings) : FilePath := s.configDir.below "config.toml"

end Settings

end Stagecraft
