/-!
Pictures, each by its short name between colons.
-/
namespace ScreenNavigation.Naming

/-- Each row has a spelling and the characters that are so spelled. -/
def picturesSpellings : List (String × String) := [
  (":100:", "💯"), (":1234:", "🔢"), (":1st_place_medal:", "🥇"), (":2nd_place_medal:", "🥈"),
  (":3rd_place_medal:", "🥉"), (":8ball:", "🎱"), (":a:", "🅰"), (":ab:", "🆎"), (":abacus:", "🧮"),
  (":abc:", "🔤"), (":abcd:", "🔡"), (":accept:", "🉑"), (":adhesive_bandage:", "🩹"),
  (":admission_tickets:", "🎟"), (":adult:", "🧑"), (":aerial_tramway:", "🚡"), (":airplane:", "✈"),
  (":airplane_arriving:", "🛬"), (":airplane_departure:", "🛫"), (":alarm_clock:", "⏰"),
  (":alembic:", "⚗"), (":alien:", "👽"), (":ambulance:", "🚑"), (":amphora:", "🏺"),
  (":anchor:", "⚓"), (":angel:", "👼"), (":anger:", "💢"), (":angry:", "😠"), (":anguished:", "😧"),
  (":ant:", "🐜"), (":apple:", "🍎"), (":aquarius:", "♒"), (":aries:", "♈"),
  (":arrow_backward:", "◀"), (":arrow_double_down:", "⏬"), (":arrow_double_up:", "⏫"),
  (":arrow_down:", "⬇"), (":arrow_down_small:", "🔽"), (":arrow_forward:", "▶"),
  (":arrow_heading_down:", "⤵"), (":arrow_heading_up:", "⤴"), (":arrow_left:", "⬅"),
  (":arrow_right:", "➡"), (":arrow_up:", "⬆"), (":arrow_up_small:", "🔼"),
  (":arrows_clockwise:", "🔃"), (":arrows_counterclockwise:", "🔄"), (":art:", "🎨"),
  (":articulated_lorry:", "🚛"), (":astonished:", "😲"), (":athletic_shoe:", "👟"), (":atm:", "🏧"),
  (":atom_symbol:", "⚛"), (":auto_rickshaw:", "🛺"), (":avocado:", "🥑"), (":axe:", "🪓"),
  (":b:", "🅱"), (":baby:", "👶"), (":baby_bottle:", "🍼"), (":baby_chick:", "🐤"),
  (":baby_symbol:", "🚼"), (":back:", "🔙"), (":bacon:", "🥓"), (":badger:", "🦡"),
  (":badminton_racquet_and_shuttlecock:", "🏸"), (":bagel:", "🥯"), (":baggage_claim:", "🛄"),
  (":baguette_bread:", "🥖"), (":bald:", "🦲"), (":ballet_shoes:", "🩰"), (":balloon:", "🎈"),
  (":ballot_box_with_ballot:", "🗳"), (":ballot_box_with_check:", "☑"), (":bamboo:", "🎍"),
  (":banana:", "🍌"), (":banjo:", "🪕"), (":bank:", "🏦"), (":bar_chart:", "📊"), (":barber:", "💈"),
  (":baseball:", "⚾"), (":basket:", "🧺"), (":basketball:", "🏀"), (":bat:", "🦇"), (":bath:", "🛀"),
  (":bathtub:", "🛁"), (":battery:", "🔋"), (":beach_with_umbrella:", "🏖"), (":bear:", "🐻"),
  (":bearded_person:", "🧔"), (":bed:", "🛏"), (":bee:", "🐝"), (":beer:", "🍺"), (":beers:", "🍻"),
  (":beetle:", "🐞"), (":beginner:", "🔰"), (":bell:", "🔔"), (":bellhop_bell:", "🛎"),
  (":bento:", "🍱"), (":beverage_box:", "🧃"), (":bicyclist:", "🚴"), (":bike:", "🚲"),
  (":bikini:", "👙"), (":billed_cap:", "🧢"), (":biohazard_sign:", "☣"), (":bird:", "🐦"),
  (":birthday:", "🎂"), (":black_circle:", "⚫"), (":black_circle_for_record:", "⏺"),
  (":black_heart:", "🖤"), (":black_joker:", "🃏"), (":black_large_square:", "⬛"),
  (":black_left__pointing_double_triangle_with_vertical_bar:", "⏮"),
  (":black_medium_small_square:", "◾"), (":black_medium_square:", "◼"), (":black_nib:", "✒"),
  (":black_right__pointing_double_triangle_with_vertical_bar:", "⏭"),
  (":black_right__pointing_triangle_with_double_vertical_bar:", "⏯"),
  (":black_small_square:", "▪"), (":black_square_button:", "🔲"),
  (":black_square_for_stop:", "⏹"), (":blossom:", "🌼"), (":blowfish:", "🐡"),
  (":blue_book:", "📘"), (":blue_car:", "🚙"), (":blue_heart:", "💙"), (":blue_square:", "🟦"),
  (":blush:", "😊"), (":boar:", "🐗"), (":boat:", "⛵"), (":bomb:", "💣"), (":bone:", "🦴"),
  (":book:", "📖"), (":bookmark:", "🔖"), (":bookmark_tabs:", "📑"), (":books:", "📚"),
  (":boom:", "💥"), (":boot:", "👢"), (":bottle_with_popping_cork:", "🍾"), (":bouquet:", "💐"),
  (":bow:", "🙇"), (":bow_and_arrow:", "🏹"), (":bowl_with_spoon:", "🥣"), (":bowling:", "🎳"),
  (":boxing_glove:", "🥊"), (":boy:", "👦"), (":brain:", "🧠"), (":bread:", "🍞"),
  (":breast-feeding:", "🤱"), (":brick:", "🧱"), (":bride_with_veil:", "👰"),
  (":bridge_at_night:", "🌉"), (":briefcase:", "💼"), (":briefs:", "🩲"), (":broccoli:", "🥦"),
  (":broken_heart:", "💔"), (":broom:", "🧹"), (":brown_circle:", "🟤"), (":brown_heart:", "🤎"),
  (":brown_square:", "🟫"), (":bug:", "🐛"), (":building_construction:", "🏗"), (":bulb:", "💡"),
  (":bullettrain_front:", "🚅"), (":bullettrain_side:", "🚄"), (":burrito:", "🌯"), (":bus:", "🚌"),
  (":busstop:", "🚏"), (":bust_in_silhouette:", "👤"), (":busts_in_silhouette:", "👥"),
  (":butter:", "🧈"), (":butterfly:", "🦋"), (":cactus:", "🌵"), (":cake:", "🍰"),
  (":call_me_hand:", "🤙"), (":calling:", "📲"), (":camera:", "📷"), (":camera_with_flash:", "📸"),
  (":camping:", "🏕"), (":cancer:", "♋"), (":candle:", "🕯"), (":candy:", "🍬"),
  (":canned_food:", "🥫"), (":canoe:", "🛶"), (":capital_abcd:", "🔠"), (":capricorn:", "♑"),
  (":card_file_box:", "🗃"), (":card_index:", "📇"), (":card_index_dividers:", "🗂"),
  (":carousel_horse:", "🎠"), (":carrot:", "🥕"), (":cat2:", "🐈"), (":cat_face:", "🐱"),
  (":cd:", "💿"), (":chains:", "⛓"), (":chair:", "🪑"), (":chart:", "💹"),
  (":chart_with_downwards_trend:", "📉"), (":chart_with_upwards_trend:", "📈"),
  (":checkered_flag:", "🏁"), (":cheese_wedge:", "🧀"), (":cherries:", "🍒"),
  (":cherry_blossom:", "🌸"), (":chess_pawn:", "♟"), (":chestnut:", "🌰"), (":chicken:", "🐔"),
  (":child:", "🧒"), (":children_crossing:", "🚸"), (":chipmunk:", "🐿"), (":chocolate_bar:", "🍫"),
  (":chopsticks:", "🥢"), (":christmas_tree:", "🎄"), (":church:", "⛪"), (":cinema:", "🎦"),
  (":circus_tent:", "🎪"), (":city_sunrise:", "🌇"), (":city_sunset:", "🌆"), (":cityscape:", "🏙"),
  (":cl:", "🆑"), (":clap:", "👏"), (":clapper:", "🎬"), (":classical_building:", "🏛"),
  (":clinking_glasses:", "🥂"), (":clipboard:", "📋"), (":clock1030:", "🕥"), (":clock10:", "🕙"),
  (":clock1130:", "🕦"), (":clock11:", "🕚"), (":clock1230:", "🕧"), (":clock12:", "🕛"),
  (":clock130:", "🕜"), (":clock1:", "🕐"), (":clock230:", "🕝"), (":clock2:", "🕑"),
  (":clock330:", "🕞"), (":clock3:", "🕒"), (":clock430:", "🕟"), (":clock4:", "🕓"),
  (":clock530:", "🕠"), (":clock5:", "🕔"), (":clock630:", "🕡"), (":clock6:", "🕕"),
  (":clock730:", "🕢"), (":clock7:", "🕖"), (":clock830:", "🕣"), (":clock8:", "🕗"),
  (":clock930:", "🕤"), (":clock9:", "🕘"), (":closed_book:", "📕"),
  (":closed_lock_with_key:", "🔐"), (":closed_umbrella:", "🌂"), (":cloud:", "☁"),
  (":cloud_with_lightning:", "🌩"), (":cloud_with_rain:", "🌧"), (":cloud_with_snow:", "🌨"),
  (":cloud_with_tornado:", "🌪"), (":clown_face:", "🤡"), (":clubs:", "♣"), (":coat:", "🧥"),
  (":cocktail:", "🍸"), (":coconut:", "🥥"), (":coffee:", "☕"), (":coffin:", "⚰"),
  (":cold_face:", "🥶"), (":cold_sweat:", "😰"), (":comet:", "☄"), (":compass:", "🧭"),
  (":compression:", "🗜"), (":computer:", "💻"), (":confetti_ball:", "🎊"), (":confounded:", "😖"),
  (":confused:", "😕"), (":congratulations:", "㊗"), (":construction:", "🚧"),
  (":construction_worker:", "👷"), (":control_knobs:", "🎛"), (":convenience_store:", "🏪"),
  (":cookie:", "🍪"), (":cool:", "🆒"), (":cop:", "👮"), (":corn:", "🌽"), (":couch_and_lamp:", "🛋"),
  (":couple:", "👫"), (":couple_with_heart:", "💑"), (":couplekiss:", "💏"), (":cow2:", "🐄"),
  (":cow_face:", "🐮"), (":cowboy_hat_face:", "🤠"), (":crab:", "🦀"), (":credit_card:", "💳"),
  (":crescent_moon:", "🌙"), (":cricket:", "🦗"), (":cricket_bat_and_ball:", "🏏"),
  (":crocodile:", "🐊"), (":croissant:", "🥐"), (":crossed_fingers:", "🤞"),
  (":crossed_flags:", "🎌"), (":crossed_swords:", "⚔"), (":crown:", "👑"), (":cry:", "😢"),
  (":crying_cat_face:", "😿"), (":crystal_ball:", "🔮"), (":cucumber:", "🥒"),
  (":cup_with_straw:", "🥤"), (":cupcake:", "🧁"), (":cupid:", "💘"), (":curling_stone:", "🥌"),
  (":curly_hair:", "🦱"), (":curly_loop:", "➰"), (":currency_exchange:", "💱"), (":curry:", "🍛"),
  (":custard:", "🍮"), (":customs:", "🛃"), (":cut_of_meat:", "🥩"), (":cyclone:", "🌀"),
  (":dagger_knife:", "🗡"), (":dancer:", "💃"), (":dancers:", "👯"), (":dango:", "🍡"),
  (":dark_sunglasses:", "🕶"), (":dart:", "🎯"), (":dash:", "💨"), (":date:", "📅"),
  (":deaf_person:", "🧏"), (":deciduous_tree:", "🌳"), (":deer:", "🦌"),
  (":department_store:", "🏬"), (":derelict_house_building:", "🏚"), (":desert:", "🏜"),
  (":desert_island:", "🏝"), (":desktop_computer:", "🖥"),
  (":diamond_shape_with_a_dot_inside:", "💠"), (":diamonds:", "♦"), (":disappointed:", "😞"),
  (":disappointed_relieved:", "😥"), (":diving_mask:", "🤿"), (":diya_lamp:", "🪔"),
  (":dizzy:", "💫"), (":dizzy_face:", "😵"), (":dna:", "🧬"), (":do_not_litter:", "🚯"),
  (":dog2:", "🐕"), (":dog_face:", "🐶"), (":dollar:", "💵"), (":dolls:", "🎎"), (":door:", "🚪"),
  (":double_vertical_bar:", "⏸"), (":doughnut:", "🍩"), (":dove_of_peace:", "🕊"),
  (":dragon:", "🐉"), (":dragon_face:", "🐲"), (":dress:", "👗"), (":dromedary_camel:", "🐪"),
  (":drooling_face:", "🤤"), (":drop_of_blood:", "🩸"), (":droplet:", "💧"), (":drum:", "🥁"),
  (":duck:", "🦆"), (":dumpling:", "🥟"), (":dvd:", "📀"), (":e__mail:", "📧"), (":eagle:", "🦅"),
  (":ear:", "👂"), (":ear_of_rice:", "🌾"), (":ear_with_hearing_aid:", "🦻"),
  (":earth_africa:", "🌍"), (":earth_americas:", "🌎"), (":earth_asia:", "🌏"), (":egg:", "🍳"),
  (":eggplant:", "🍆"), (":eight_pointed_black_star:", "✴"), (":eight_spoked_asterisk:", "✳"),
  (":eject_symbol:", "⏏"), (":electric_plug:", "🔌"), (":elephant:", "🐘"), (":elf:", "🧝"),
  (":email:", "✉"), (":emoji_modifier_fitzpatrick_type__1__2:", "🏻"),
  (":emoji_modifier_fitzpatrick_type__3:", "🏼"), (":emoji_modifier_fitzpatrick_type__4:", "🏽"),
  (":emoji_modifier_fitzpatrick_type__5:", "🏾"), (":emoji_modifier_fitzpatrick_type__6:", "🏿"),
  (":end:", "🔚"), (":envelope_with_arrow:", "📩"), (":euro:", "💶"), (":european_castle:", "🏰"),
  (":european_post_office:", "🏤"), (":evergreen_tree:", "🌲"), (":exploding_head:", "🤯"),
  (":expressionless:", "😑"), (":eye:", "👁"), (":eyeglasses:", "👓"), (":eyes:", "👀"),
  (":face_vomiting:", "🤮"), (":face_with_hand_over_mouth:", "🤭"),
  (":face_with_head__bandage:", "🤕"), (":face_with_monocle:", "🧐"),
  (":face_with_raised_eyebrow:", "🤨"), (":face_with_rolling_eyes:", "🙄"),
  (":face_with_symbols_on_mouth:", "🤬"), (":face_with_thermometer:", "🤒"), (":factory:", "🏭"),
  (":fairy:", "🧚"), (":falafel:", "🧆"), (":fallen_leaf:", "🍂"), (":family:", "👪"),
  (":fast_forward:", "⏩"), (":fax:", "📠"), (":fearful:", "😨"), (":feet:", "🐾"),
  (":female_sign:", "♀"), (":ferris_wheel:", "🎡"), (":ferry:", "⛴"),
  (":field_hockey_stick_and_ball:", "🏑"), (":file_cabinet:", "🗄"), (":file_folder:", "📁"),
  (":film_frames:", "🎞"), (":film_projector:", "📽"), (":fire:", "🔥"), (":fire_engine:", "🚒"),
  (":fire_extinguisher:", "🧯"), (":firecracker:", "🧨"), (":fireworks:", "🎆"),
  (":first_quarter_moon:", "🌓"), (":first_quarter_moon_with_face:", "🌛"), (":fish:", "🐟"),
  (":fish_cake:", "🍥"), (":fishing_pole_and_fish:", "🎣"), (":fist:", "✊"), (":flags:", "🎏"),
  (":flamingo:", "🦩"), (":flashlight:", "🔦"), (":flat_shoe:", "🥿"), (":fleur__de__lis:", "⚜"),
  (":flipper:", "🐬"), (":floppy_disk:", "💾"), (":flower_playing_cards:", "🎴"),
  (":flushed:", "😳"), (":flying_disc:", "🥏"), (":flying_saucer:", "🛸"), (":fog:", "🌫"),
  (":foggy:", "🌁"), (":foot:", "🦶"), (":football:", "🏈"), (":footprints:", "👣"),
  (":fork_and_knife:", "🍴"), (":fork_and_knife_with_plate:", "🍽"), (":fortune_cookie:", "🥠"),
  (":fountain:", "⛲"), (":four_leaf_clover:", "🍀"), (":fox_face:", "🦊"),
  (":frame_with_picture:", "🖼"), (":free:", "🆓"), (":fried_shrimp:", "🍤"), (":fries:", "🍟"),
  (":frog:", "🐸"), (":frowning:", "😦"), (":fuelpump:", "⛽"), (":full_moon:", "🌕"),
  (":full_moon_with_face:", "🌝"), (":funeral_urn:", "⚱"), (":game_die:", "🎲"), (":garlic:", "🧄"),
  (":gear:", "⚙"), (":gem:", "💎"), (":gemini:", "♊"), (":genie:", "🧞"), (":ghost:", "👻"),
  (":gift:", "🎁"), (":gift_heart:", "💝"), (":giraffe:", "🦒"), (":girl:", "👧"),
  (":glass_of_milk:", "🥛"), (":globe_with_meridians:", "🌐"), (":gloves:", "🧤"),
  (":goal_net:", "🥅"), (":goat:", "🐐"), (":goggles:", "🥽"), (":golf:", "⛳"), (":golfer:", "🏌"),
  (":gorilla:", "🦍"), (":grapes:", "🍇"), (":green_apple:", "🍏"), (":green_book:", "📗"),
  (":green_circle:", "🟢"), (":green_heart:", "💚"), (":green_salad:", "🥗"),
  (":green_square:", "🟩"), (":grey_exclamation:", "❕"), (":grey_question:", "❔"),
  (":grimacing:", "😬"), (":grin:", "😁"), (":grinning:", "😀"), (":guardsman:", "💂"),
  (":guide_dog:", "🦮"), (":guitar:", "🎸"), (":gun:", "🔫"), (":haircut:", "💇"),
  (":hamburger:", "🍔"), (":hammer:", "🔨"), (":hammer_and_pick:", "⚒"),
  (":hammer_and_wrench:", "🛠"), (":hamster:", "🐹"), (":hand:", "✋"), (":handbag:", "👜"),
  (":handshake:", "🤝"), (":hatched_chick:", "🐥"), (":hatching_chick:", "🐣"),
  (":headphones:", "🎧"), (":hear_no_evil:", "🙉"), (":heart:", "❤"), (":heart_decoration:", "💟"),
  (":heart_eyes:", "😍"), (":heart_eyes_cat:", "😻"), (":heartbeat:", "💓"), (":heartpulse:", "💗"),
  (":hearts:", "♥"), (":heavy_check_mark:", "✔"), (":heavy_division_sign:", "➗"),
  (":heavy_dollar_sign:", "💲"), (":heavy_exclamation_mark:", "❗"),
  (":heavy_heart_exclamation_mark_ornament:", "❣"), (":heavy_minus_sign:", "➖"),
  (":heavy_multiplication_x:", "✖"), (":heavy_plus_sign:", "➕"), (":hedgehog:", "🦔"),
  (":helicopter:", "🚁"), (":helm_symbol:", "⎈"), (":helmet_with_white_cross:", "⛑"),
  (":herb:", "🌿"), (":hibiscus:", "🌺"), (":high_brightness:", "🔆"), (":high_heel:", "👠"),
  (":hiking_boot:", "🥾"), (":hindu_temple:", "🛕"), (":hippopotamus:", "🦛"), (":hole:", "🕳"),
  (":honey_pot:", "🍯"), (":horse_face:", "🐴"), (":horse_racing:", "🏇"), (":hospital:", "🏥"),
  (":hot_dog:", "🌭"), (":hot_face:", "🥵"), (":hot_pepper:", "🌶"), (":hotel:", "🏨"),
  (":hotsprings:", "♨"), (":hourglass:", "⌛"), (":hourglass_flowing_sand:", "⏳"),
  (":house:", "🏠"), (":house_buildings:", "🏘"), (":house_with_garden:", "🏡"),
  (":hugging_face:", "🤗"), (":hushed:", "😯"), (":ice:", "🧊"), (":ice_cream:", "🍨"),
  (":ice_hockey_stick_and_puck:", "🏒"), (":ice_skate:", "⛸"), (":icecream:", "🍦"), (":id:", "🆔"),
  (":ideograph_advantage:", "🉐"), (":imp:", "👿"), (":inbox_tray:", "📥"),
  (":incoming_envelope:", "📨"), (":infinity:", "♾"), (":information_desk_person:", "💁"),
  (":innocent:", "😇"), (":iphone:", "📱"), (":jack_o_lantern:", "🎃"), (":japanese_castle:", "🏯"),
  (":japanese_goblin:", "👺"), (":japanese_ogre:", "👹"), (":jeans:", "👖"), (":jigsaw:", "🧩"),
  (":joy:", "😂"), (":joy_cat:", "😹"), (":joystick:", "🕹"), (":kaaba:", "🕋"), (":kangaroo:", "🦘"),
  (":key:", "🔑"), (":keyboard:", "⌨"), (":kick_scooter:", "🛴"), (":kimono:", "👘"),
  (":kiss_mark:", "💋"), (":kissing:", "😗"), (":kissing_cat:", "😽"),
  (":kissing_closed_eyes:", "😚"), (":kissing_heart:", "😘"), (":kissing_smiling_eyes:", "😙"),
  (":kite:", "🪁"), (":kiwi_fruit:", "🥝"), (":knife:", "🔪"), (":koala:", "🐨"), (":koko:", "🈁"),
  (":lab_coat:", "🥼"), (":label:", "🏷"), (":lacrosse:", "🥍"), (":lantern:", "🏮"),
  (":large_blue_circle:", "🔵"), (":large_blue_diamond:", "🔷"), (":large_orange_diamond:", "🔶"),
  (":last_quarter_moon:", "🌗"), (":last_quarter_moon_with_face:", "🌜"), (":latin_cross:", "✝"),
  (":leafy_green:", "🥬"), (":leaves:", "🍃"), (":ledger:", "📒"), (":left-facing_fist:", "🤛"),
  (":left_luggage:", "🛅"), (":left_speech_bubble:", "🗨"), (":leg:", "🦵"), (":lemon:", "🍋"),
  (":leo:", "♌"), (":leopard:", "🐆"), (":level_slider:", "🎚"), (":libra:", "♎"),
  (":light_rail:", "🚈"), (":link:", "🔗"), (":linked_paperclips:", "🖇"), (":lion_face:", "🦁"),
  (":lips:", "👄"), (":lipstick:", "💄"), (":lizard:", "🦎"), (":llama:", "🦙"), (":lobster:", "🦞"),
  (":lock:", "🔒"), (":lock_with_ink_pen:", "🔏"), (":lollipop:", "🍭"), (":loop:", "➿"),
  (":lotion_bottle:", "🧴"), (":loud_sound:", "🔊"), (":loudspeaker:", "📢"),
  (":love-you_gesture:", "🤟"), (":love_hotel:", "🏩"), (":love_letter:", "💌"),
  (":low_brightness:", "🔅"), (":lower_left_ballpoint_pen:", "🖊"), (":lower_left_crayon:", "🖍"),
  (":lower_left_fountain_pen:", "🖋"), (":lower_left_paintbrush:", "🖌"), (":luggage:", "🧳"),
  (":lying_face:", "🤥"), (":m:", "Ⓜ"), (":mag:", "🔍"), (":mag_right:", "🔎"), (":mage:", "🧙"),
  (":magnet:", "🧲"), (":mahjong:", "🀄"), (":mailbox:", "📫"), (":mailbox_closed:", "📪"),
  (":mailbox_with_mail:", "📬"), (":mailbox_with_no_mail:", "📭"), (":male_sign:", "♂"),
  (":man:", "👨"), (":man_dancing:", "🕺"), (":man_in_business_suit_levitating:", "🕴"),
  (":man_in_tuxedo:", "🤵"), (":man_with_gua_pi_mao:", "👲"), (":man_with_turban:", "👳"),
  (":mango:", "🥭"), (":mantelpiece_clock:", "🕰"), (":manual_wheelchair:", "🦽"),
  (":map_of_japan:", "🗾"), (":maple_leaf:", "🍁"), (":martial_arts_uniform:", "🥋"),
  (":mask:", "😷"), (":massage:", "💆"), (":mate:", "🧉"), (":meat_on_bone:", "🍖"),
  (":mechanical_arm:", "🦾"), (":mechanical_leg:", "🦿"), (":medical_symbol:", "⚕"),
  (":mega:", "📣"), (":melon:", "🍈"), (":menorah_with_nine_branches:", "🕎"), (":mens:", "🚹"),
  (":merperson:", "🧜"), (":metro:", "🚇"), (":microbe:", "🦠"), (":microphone:", "🎤"),
  (":microscope:", "🔬"), (":military_medal:", "🎖"), (":milky_way:", "🌌"), (":minibus:", "🚐"),
  (":minidisc:", "💽"), (":mobile_phone_off:", "📴"), (":money__mouth_face:", "🤑"),
  (":money_with_wings:", "💸"), (":moneybag:", "💰"), (":monkey:", "🐒"), (":monkey_face:", "🐵"),
  (":monorail:", "🚝"), (":moon:", "🌔"), (":moon_cake:", "🥮"), (":mortar_board:", "🎓"),
  (":mosque:", "🕌"), (":mosquito:", "🦟"), (":motor_boat:", "🛥"), (":motor_scooter:", "🛵"),
  (":motorized_wheelchair:", "🦼"), (":motorway:", "🛣"), (":mount_fuji:", "🗻"),
  (":mountain:", "⛰"), (":mountain_bicyclist:", "🚵"), (":mountain_cableway:", "🚠"),
  (":mountain_railway:", "🚞"), (":mouse2:", "🐁"), (":mouse_face:", "🐭"), (":movie_camera:", "🎥"),
  (":moyai:", "🗿"), (":mrs._claus:", "🤶"), (":muscle:", "💪"), (":mushroom:", "🍄"),
  (":musical_keyboard:", "🎹"), (":musical_note:", "🎵"), (":musical_score:", "🎼"),
  (":mute:", "🔇"), (":nail_care:", "💅"), (":name_badge:", "📛"), (":national_park:", "🏞"),
  (":nauseated_face:", "🤢"), (":nazar_amulet:", "🧿"), (":necktie:", "👔"),
  (":negative_squared_cross_mark:", "❎"), (":nerd_face:", "🤓"), (":neutral_face:", "😐"),
  (":new:", "🆕"), (":new_moon:", "🌑"), (":new_moon_with_face:", "🌚"), (":newspaper:", "📰"),
  (":ng:", "🆖"), (":night_with_stars:", "🌃"), (":no_bell:", "🔕"), (":no_bicycles:", "🚳"),
  (":no_entry:", "⛔"), (":no_entry_sign:", "🚫"), (":no_good:", "🙅"), (":no_mobile_phones:", "📵"),
  (":no_mouth:", "😶"), (":no_pedestrians:", "🚷"), (":no_smoking:", "🚭"),
  (":non__potable_water:", "🚱"), (":nose:", "👃"), (":notebook:", "📓"),
  (":notebook_with_decorative_cover:", "📔"), (":notes:", "🎶"), (":nut_and_bolt:", "🔩"),
  (":o2:", "🅾"), (":o:", "⭕"), (":ocean:", "🌊"), (":octopus:", "🐙"), (":oden:", "🍢"),
  (":office:", "🏢"), (":oil_drum:", "🛢"), (":ok:", "🆗"), (":ok_hand:", "👌"), (":ok_woman:", "🙆"),
  (":old_key:", "🗝"), (":older_adult:", "🧓"), (":older_man:", "👴"), (":older_woman:", "👵"),
  (":om_symbol:", "🕉"), (":on:", "🔛"), (":oncoming_automobile:", "🚘"), (":oncoming_bus:", "🚍"),
  (":oncoming_police_car:", "🚔"), (":oncoming_taxi:", "🚖"), (":one-piece_swimsuit:", "🩱"),
  (":onion:", "🧅"), (":open_file_folder:", "📂"), (":open_hands:", "👐"), (":open_mouth:", "😮"),
  (":ophiuchus:", "⛎"), (":orange_book:", "📙"), (":orange_circle:", "🟠"),
  (":orange_heart:", "🧡"), (":orange_square:", "🟧"), (":orangutan:", "🦧"),
  (":orthodox_cross:", "☦"), (":otter:", "🦦"), (":outbox_tray:", "📤"), (":owl:", "🦉"),
  (":ox:", "🐂"), (":oyster:", "🦪"), (":package:", "📦"), (":page_facing_up:", "📄"),
  (":page_with_curl:", "📃"), (":pager:", "📟"), (":palm_tree:", "🌴"),
  (":palms_up_together:", "🤲"), (":pancakes:", "🥞"), (":panda_face:", "🐼"), (":paperclip:", "📎"),
  (":parking:", "🅿"), (":parrot:", "🦜"), (":part_alternation_mark:", "〽"),
  (":partly_sunny:", "⛅"), (":partying_face:", "🥳"), (":passenger_ship:", "🛳"),
  (":passport_control:", "🛂"), (":peace_symbol:", "☮"), (":peach:", "🍑"), (":peacock:", "🦚"),
  (":peanuts:", "🥜"), (":pear:", "🍐"), (":pencil2:", "✏"), (":pencil:", "📝"), (":penguin:", "🐧"),
  (":pensive:", "😔"), (":people_wrestling:", "🤼"), (":performing_arts:", "🎭"),
  (":persevere:", "😣"), (":person_cartwheeling:", "🤸"), (":person_climbing:", "🧗"),
  (":person_facepalming:", "🤦"), (":person_fencing:", "🤺"), (":person_frowning:", "🙍"),
  (":person_in_lotus_position:", "🧘"), (":person_in_steamy_room:", "🧖"),
  (":person_juggling:", "🤹"), (":person_kneeling:", "🧎"), (":person_playing_handball:", "🤾"),
  (":person_playing_water_polo:", "🤽"), (":person_shrugging:", "🤷"), (":person_standing:", "🧍"),
  (":person_with_ball:", "⛹"), (":person_with_blond_hair:", "👱"),
  (":person_with_pouting_face:", "🙎"), (":petri_dish:", "🧫"), (":phone:", "☎"), (":pick:", "⛏"),
  (":pie:", "🥧"), (":pig2:", "🐖"), (":pig_face:", "🐷"), (":pig_nose:", "🐽"), (":pill:", "💊"),
  (":pinching_hand:", "🤏"), (":pineapple:", "🍍"), (":pisces:", "♓"), (":pizza:", "🍕"),
  (":place_of_worship:", "🛐"), (":pleading_face:", "🥺"), (":point_down:", "👇"),
  (":point_left:", "👈"), (":point_right:", "👉"), (":point_up:", "☝"), (":point_up_2:", "👆"),
  (":police_car:", "🚓"), (":poodle:", "🐩"), (":popcorn:", "🍿"), (":post_office:", "🏣"),
  (":postal_horn:", "📯"), (":postbox:", "📮"), (":potable_water:", "🚰"), (":potato:", "🥔"),
  (":pouch:", "👝"), (":poultry_leg:", "🍗"), (":pound:", "💷"), (":pouting_cat:", "😾"),
  (":pray:", "🙏"), (":prayer_beads:", "📿"), (":pregnant_woman:", "🤰"), (":pretzel:", "🥨"),
  (":prince:", "🤴"), (":princess:", "👸"), (":printer:", "🖨"), (":probing_cane:", "🦯"),
  (":punch:", "👊"), (":purple_circle:", "🟣"), (":purple_heart:", "💜"), (":purple_square:", "🟪"),
  (":purse:", "👛"), (":pushpin:", "📌"), (":put_litter_in_its_place:", "🚮"), (":question:", "❓"),
  (":rabbit2:", "🐇"), (":rabbit_face:", "🐰"), (":raccoon:", "🦝"), (":racehorse:", "🐎"),
  (":racing_car:", "🏎"), (":racing_motorcycle:", "🏍"), (":radio:", "📻"), (":radio_button:", "🔘"),
  (":radioactive_sign:", "☢"), (":rage:", "😡"), (":railway_car:", "🚃"), (":railway_track:", "🛤"),
  (":rainbow:", "🌈"), (":raised_back_of_hand:", "🤚"),
  (":raised_hand_with_fingers_splayed:", "🖐"),
  (":raised_hand_with_part_between_middle_and_ring_fingers:", "🖖"), (":raised_hands:", "🙌"),
  (":raising_hand:", "🙋"), (":ram:", "🐏"), (":ramen:", "🍜"), (":rat:", "🐀"), (":razor:", "🪒"),
  (":receipt:", "🧾"), (":recycle:", "♻"), (":red_car:", "🚗"), (":red_circle:", "🔴"),
  (":red_envelope:", "🧧"), (":red_hair:", "🦰"), (":red_square:", "🟥"),
  (":regional_indicator_a:", "🇦"), (":regional_indicator_b:", "🇧"),
  (":regional_indicator_c:", "🇨"), (":regional_indicator_d:", "🇩"),
  (":regional_indicator_e:", "🇪"), (":regional_indicator_f:", "🇫"),
  (":regional_indicator_g:", "🇬"), (":regional_indicator_h:", "🇭"),
  (":regional_indicator_i:", "🇮"), (":regional_indicator_j:", "🇯"),
  (":regional_indicator_k:", "🇰"), (":regional_indicator_l:", "🇱"),
  (":regional_indicator_m:", "🇲"), (":regional_indicator_n:", "🇳"),
  (":regional_indicator_o:", "🇴"), (":regional_indicator_p:", "🇵"),
  (":regional_indicator_q:", "🇶"), (":regional_indicator_r:", "🇷"),
  (":regional_indicator_s:", "🇸"), (":regional_indicator_t:", "🇹"),
  (":regional_indicator_u:", "🇺"), (":regional_indicator_v:", "🇻"),
  (":regional_indicator_w:", "🇼"), (":regional_indicator_x:", "🇽"),
  (":regional_indicator_y:", "🇾"), (":regional_indicator_z:", "🇿"), (":relaxed:", "☺"),
  (":relieved:", "😌"), (":reminder_ribbon:", "🎗"), (":repeat:", "🔁"), (":repeat_one:", "🔂"),
  (":restroom:", "🚻"), (":reversed_hand_with_middle_finger_extended:", "🖕"),
  (":revolving_hearts:", "💞"), (":rewind:", "⏪"), (":rhinoceros:", "🦏"), (":ribbon:", "🎀"),
  (":rice:", "🍚"), (":rice_ball:", "🍙"), (":rice_cracker:", "🍘"), (":rice_scene:", "🎑"),
  (":right-facing_fist:", "🤜"), (":right_anger_bubble:", "🗯"), (":ring:", "💍"),
  (":ringed_planet:", "🪐"), (":robot:", "🤖"), (":rocket:", "🚀"), (":roll_of_paper:", "🧻"),
  (":rolled__up_newspaper:", "🗞"), (":roller_coaster:", "🎢"),
  (":rolling_on_the_floor_laughing:", "🤣"), (":rooster:", "🐓"), (":rose:", "🌹"),
  (":rosette:", "🏵"), (":rotating_light:", "🚨"), (":round_pushpin:", "📍"), (":rowboat:", "🚣"),
  (":rugby_football:", "🏉"), (":running:", "🏃"), (":running_shirt_with_sash:", "🎽"),
  (":sa:", "🈂"), (":safety_pin:", "🧷"), (":safety_vest:", "🦺"), (":sagittarius:", "♐"),
  (":sake:", "🍶"), (":salt:", "🧂"), (":sandal:", "👡"), (":sandwich:", "🥪"), (":santa:", "🎅"),
  (":sari:", "🥻"), (":satellite_antenna:", "📡"), (":satisfied:", "😆"), (":sauropod:", "🦕"),
  (":saxophone:", "🎷"), (":scales:", "⚖"), (":scarf:", "🧣"), (":school:", "🏫"),
  (":school_satchel:", "🎒"), (":scissors:", "✂"), (":scorpion:", "🦂"), (":scorpius:", "♏"),
  (":scream:", "😱"), (":scream_cat:", "🙀"), (":scroll:", "📜"), (":seat:", "💺"),
  (":secret:", "㊙"), (":see_no_evil:", "🙈"), (":seedling:", "🌱"), (":selfie:", "🤳"),
  (":shallow_pan_of_food:", "🥘"), (":shamrock:", "☘"), (":shark:", "🦈"), (":shaved_ice:", "🍧"),
  (":sheep:", "🐑"), (":shell:", "🐚"), (":shield:", "🛡"), (":shinto_shrine:", "⛩"),
  (":ship:", "🚢"), (":shit:", "💩"), (":shoe:", "👞"), (":shopping_bags:", "🛍"),
  (":shopping_cart:", "🛒"), (":shorts:", "🩳"), (":shower:", "🚿"), (":shrimp:", "🦐"),
  (":shushing_face:", "🤫"), (":sign_of_the_horns:", "🤘"), (":signal_strength:", "📶"),
  (":six_pointed_star:", "🔯"), (":skateboard:", "🛹"), (":ski:", "🎿"), (":skier:", "⛷"),
  (":skull:", "💀"), (":skull_and_crossbones:", "☠"), (":skunk:", "🦨"), (":sled:", "🛷"),
  (":sleeping:", "😴"), (":sleeping_accommodation:", "🛌"), (":sleepy:", "😪"),
  (":sleuth_or_spy:", "🕵"), (":slightly_frowning_face:", "🙁"), (":slightly_smiling_face:", "🙂"),
  (":slot_machine:", "🎰"), (":sloth:", "🦥"), (":small_airplane:", "🛩"),
  (":small_blue_diamond:", "🔹"), (":small_orange_diamond:", "🔸"), (":small_red_triangle:", "🔺"),
  (":small_red_triangle_down:", "🔻"), (":smile:", "😄"), (":smile_cat:", "😸"), (":smiley:", "😃"),
  (":smiley_cat:", "😺"), (":smiling_face_with_3_hearts:", "🥰"), (":smiling_imp:", "😈"),
  (":smirk:", "😏"), (":smirk_cat:", "😼"), (":smoking:", "🚬"), (":snail:", "🐌"), (":snake:", "🐍"),
  (":sneezing_face:", "🤧"), (":snow_capped_mountain:", "🏔"), (":snowboarder:", "🏂"),
  (":snowflake:", "❄"), (":snowman:", "☃"), (":snowman_without_snow:", "⛄"), (":soap:", "🧼"),
  (":sob:", "😭"), (":soccer:", "⚽"), (":socks:", "🧦"), (":softball:", "🥎"), (":soon:", "🔜"),
  (":sos:", "🆘"), (":sound:", "🔉"), (":space_invader:", "👾"), (":spades:", "♠"),
  (":spaghetti:", "🍝"), (":sparkle:", "❇"), (":sparkler:", "🎇"), (":sparkles:", "✨"),
  (":sparkling_heart:", "💖"), (":speak_no_evil:", "🙊"), (":speaker:", "🔈"),
  (":speaking_head_in_silhouette:", "🗣"), (":speech_balloon:", "💬"), (":speedboat:", "🚤"),
  (":spider:", "🕷"), (":spider_web:", "🕸"), (":spiral_calendar_pad:", "🗓"),
  (":spiral_note_pad:", "🗒"), (":sponge:", "🧽"), (":spoon:", "🥄"), (":sports_medal:", "🏅"),
  (":squid:", "🦑"), (":stadium:", "🏟"), (":star-struck:", "🤩"), (":star2:", "🌟"),
  (":star:", "⭐"), (":star_and_crescent:", "☪"), (":star_of_david:", "✡"), (":stars:", "🌠"),
  (":station:", "🚉"), (":statue_of_liberty:", "🗽"), (":steam_locomotive:", "🚂"),
  (":stethoscope:", "🩺"), (":stew:", "🍲"), (":stop_sign:", "🛑"), (":stopwatch:", "⏱"),
  (":straight_ruler:", "📏"), (":strawberry:", "🍓"), (":stuck_out_tongue:", "😛"),
  (":stuck_out_tongue_closed_eyes:", "😝"), (":stuck_out_tongue_winking_eye:", "😜"),
  (":studio_microphone:", "🎙"), (":stuffed_flatbread:", "🥙"), (":sun_with_face:", "🌞"),
  (":sunflower:", "🌻"), (":sunglasses:", "😎"), (":sunny:", "☀"), (":sunrise:", "🌅"),
  (":sunrise_over_mountains:", "🌄"), (":superhero:", "🦸"), (":supervillain:", "🦹"),
  (":surfer:", "🏄"), (":sushi:", "🍣"), (":suspension_railway:", "🚟"), (":swan:", "🦢"),
  (":sweat:", "😓"), (":sweat_drops:", "💦"), (":sweat_smile:", "😅"), (":sweet_potato:", "🍠"),
  (":swimmer:", "🏊"), (":symbols:", "🔣"), (":synagogue:", "🕍"), (":syringe:", "💉"),
  (":t-rex:", "🦖"), (":table_tennis_paddle_and_ball:", "🏓"), (":taco:", "🌮"), (":tada:", "🎉"),
  (":takeout_box:", "🥡"), (":tanabata_tree:", "🎋"), (":tangerine:", "🍊"), (":taurus:", "♉"),
  (":taxi:", "🚕"), (":tea:", "🍵"), (":tear-off_calendar:", "📆"), (":teddy_bear:", "🧸"),
  (":telephone_receiver:", "📞"), (":telescope:", "🔭"), (":ten:", "🔟"), (":tennis:", "🎾"),
  (":tent:", "⛺"), (":test_tube:", "🧪"), (":thermometer:", "🌡"), (":thinking_face:", "🤔"),
  (":thought_balloon:", "💭"), (":thread:", "🧵"), (":three_button_mouse:", "🖱"),
  (":thumbsdown:", "👎"), (":thumbsup:", "👍"), (":thunder_cloud_and_rain:", "⛈"),
  (":ticket:", "🎫"), (":tiger2:", "🐅"), (":tiger_face:", "🐯"), (":timer_clock:", "⏲"),
  (":tired_face:", "😫"), (":toilet:", "🚽"), (":tokyo_tower:", "🗼"), (":tomato:", "🍅"),
  (":tongue:", "👅"), (":toolbox:", "🧰"), (":tooth:", "🦷"), (":top:", "🔝"), (":tophat:", "🎩"),
  (":trackball:", "🖲"), (":tractor:", "🚜"), (":traffic_light:", "🚥"), (":train2:", "🚆"),
  (":tram:", "🚊"), (":tram_car:", "🚋"), (":triangular_flag_on_post:", "🚩"),
  (":triangular_ruler:", "📐"), (":trident:", "🔱"), (":triumph:", "😤"), (":trolleybus:", "🚎"),
  (":trophy:", "🏆"), (":tropical_drink:", "🍹"), (":tropical_fish:", "🐠"), (":truck:", "🚚"),
  (":trumpet:", "🎺"), (":tshirt:", "👕"), (":tulip:", "🌷"), (":tumbler_glass:", "🥃"),
  (":turkey:", "🦃"), (":turtle:", "🐢"), (":tv:", "📺"), (":twisted_rightwards_arrows:", "🔀"),
  (":two-hump_camel:", "🐫"), (":two_hearts:", "💕"), (":two_men_holding_hands:", "👬"),
  (":two_women_holding_hands:", "👭"), (":u5272:", "🈹"), (":u5408:", "🈴"), (":u55b6:", "🈺"),
  (":u6307:", "🈯"), (":u6708:", "🈷"), (":u6709:", "🈶"), (":u6e80:", "🈵"), (":u7121:", "🈚"),
  (":u7533:", "🈸"), (":u7981:", "🈲"), (":u7a7a:", "🈳"), (":umbrella:", "☂"),
  (":umbrella_on_ground:", "⛱"), (":umbrella_with_rain_drops:", "☔"), (":unamused:", "😒"),
  (":underage:", "🔞"), (":unicorn_face:", "🦄"), (":unlock:", "🔓"), (":up:", "🆙"),
  (":upside__down_face:", "🙃"), (":v:", "✌"), (":vampire:", "🧛"),
  (":vertical_traffic_light:", "🚦"), (":vhs:", "📼"), (":vibration_mode:", "📳"),
  (":video_camera:", "📹"), (":video_game:", "🎮"), (":violin:", "🎻"), (":virgo:", "♍"),
  (":volcano:", "🌋"), (":volleyball:", "🏐"), (":vs:", "🆚"), (":waffle:", "🧇"),
  (":walking:", "🚶"), (":waning_crescent_moon:", "🌘"), (":waning_gibbous_moon:", "🌖"),
  (":warning:", "⚠"), (":wastebasket:", "🗑"), (":watch:", "⌚"), (":water_buffalo:", "🐃"),
  (":watermelon:", "🍉"), (":wave:", "👋"), (":waving_black_flag:", "🏴"),
  (":waving_white_flag:", "🏳"), (":wavy_dash:", "〰"), (":waxing_crescent_moon:", "🌒"),
  (":wc:", "🚾"), (":weary:", "😩"), (":wedding:", "💒"), (":weight_lifter:", "🏋"),
  (":whale2:", "🐋"), (":whale:", "🐳"), (":wheel_of_dharma:", "☸"), (":wheelchair:", "♿"),
  (":white_check_mark:", "✅"), (":white_circle:", "⚪"), (":white_flower:", "💮"),
  (":white_frowning_face:", "☹"), (":white_hair:", "🦳"), (":white_heart:", "🤍"),
  (":white_large_square:", "⬜"), (":white_small_square:", "▫"), (":white_square_button:", "🔳"),
  (":white_sun_behind_cloud:", "🌥"), (":white_sun_behind_cloud_with_rain:", "🌦"),
  (":white_sun_with_small_cloud:", "🌤"), (":wilted_flower:", "🥀"), (":wind_blowing_face:", "🌬"),
  (":wind_chime:", "🎐"), (":wine_glass:", "🍷"), (":wink:", "😉"), (":wolf:", "🐺"),
  (":woman:", "👩"), (":woman_with_headscarf:", "🧕"), (":womans_clothes:", "👚"),
  (":womans_hat:", "👒"), (":womens:", "🚺"), (":woozy_face:", "🥴"), (":world_map:", "🗺"),
  (":worried:", "😟"), (":wrench:", "🔧"), (":writing_hand:", "✍"), (":x:", "❌"), (":yarn:", "🧶"),
  (":yawning_face:", "🥱"), (":yellow_circle:", "🟡"), (":yellow_heart:", "💛"),
  (":yellow_square:", "🟨"), (":yen:", "💴"), (":yin_yang:", "☯"), (":yo-yo:", "🪀"),
  (":yum:", "😋"), (":zany_face:", "🤪"), (":zap:", "⚡"), (":zebra:", "🦓"),
  (":zipper__mouth_face:", "🤐"), (":zombie:", "🧟"), (":zzz:", "💤")]

end ScreenNavigation.Naming
