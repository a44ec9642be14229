import MoveIt.Data.NameMap
import MoveIt.RosMsgs
import MoveIt.CollisionDetection.CollisionMatrix
import MoveIt.CollisionDetection.Mutators
import MoveIt.CollisionDetection.Message
import MoveIt.CollisionDetection.Encoding
import MoveIt.CollisionDetection.Decoding
import MoveIt.CollisionDetection.Reachable
import MoveIt.CollisionDetection.RoundTrip
import MoveIt.CollisionDetection.Print
import MoveIt.JogArm.SharedState
import MoveIt.JogArm.Parameters
import MoveIt.JogArm.PublishLoop
import MoveIt.MoveitJogArm.VelocityScale
import MoveIt.MoveitJogArm.CollisionCheckThread
import MoveIt.OmplInterface.StateType
import MoveIt.OmplInterface.StateSpaces
import MoveIt.SetupAssistant.CollisionMatrixModel
