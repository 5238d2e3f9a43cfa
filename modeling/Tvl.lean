import Tvl.Messages.Struct
import Tvl.Messages.Datafield
import Tvl.Messages.RoundTrip
import Tvl.Messages.Descriptor
import Tvl.Targets.Model.BaseModel
import Tvl.Targets.Model.ConfigSnapshot
import Tvl.Targets.Model.AccessControl
import Tvl.Targets.Model.MetaModel
import Tvl.Targets.Model.Registration
import Tvl.Targets.Model.SharedRegistry
import Tvl.Targets.Model.ClassCreation
import Tvl.Targets.Model.SetOrder
import Tvl.Api.L2Api
import Tvl.Targets.Model.Annotations
import Tvl.Targets.Model.ProcessInput
import Tvl.Targets.Model.Isolation
