import FilterTyping.Toml.Document
import Mathlib.Data.List.Nodup

/-!
# Keys of a document

Whatever a line of a document adds, on the outside it sets one key, so that the finished table has
each key once. What an entry means is then for the entry alone to say.
-/

namespace FilterTyping.Toml

/-! ## Setting keys -/

namespace Nodes

end Nodes

/-! ## Reading lines -/

namespace Table

variable {α : Type} (means : α → Value → Prop) (usual : α)

variable {means usual} {t : Table} {key : String} {a : α}

end Table

end FilterTyping.Toml
