/-! # Stages

A staged session works on a production account with a development account beside it; the stage
says which of them writes are meant for. -/
set_option autoImplicit false
namespace StagedTables

inductive Stage where
  | dev
  | prod
  deriving DecidableEq, Repr

namespace Stage

def all : List Stage := [dev, prod]

def name : Stage → String
  | dev => "dev"
  | prod => "prod"

def ofName? (text : String) : Option Stage := all.find? (·.name = text)

end Stage
end StagedTables
