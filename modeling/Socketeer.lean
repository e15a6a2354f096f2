import Socketeer.Config
import Socketeer.Handles.Joining
import Socketeer.Handles.WindDown
import Socketeer.Handles.Graceful
import Socketeer.Handles.Closing
import Socketeer.Handles.Backlog
import Socketeer.Handles.Receive
import Socketeer.Handles.Cause
import Socketeer.Handles.Typed
import Socketeer.Handles.Deserted
import Socketeer.Handles.FeedEnd
import Socketeer.Handles.Pacing
import Socketeer.Handles.Reconnects
import Socketeer.Handles.Conversation
import Socketeer.Handles.EchoWindow
import Socketeer.Handles.InTurn
import Socketeer.Handles.Refinement
import Socketeer.MockListener
