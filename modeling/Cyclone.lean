import Cyclone.PyDict
import Cyclone.Message
import Cyclone.CriticalSection
import Cyclone.Master.Loop
import Cyclone.Master.Spec
import Cyclone.Master.Reply
import Cyclone.Master.Assignment
import Cyclone.Master.Queue
import Cyclone.Master.Shutdown
import Cyclone.Master.Heartbeat
import Cyclone.Utf8
import Cyclone.Worker
